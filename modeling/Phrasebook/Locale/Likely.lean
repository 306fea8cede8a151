import Phrasebook.Unicode.Properties

/-!
# Aliases and likely scripts

Outdated codes with what replaced them, and the full form in which a language, or a language with a
region or a script, is most likely meant. Only pairs whose full form does not follow from that of
the language are listed.
-/

namespace Phrasebook.Locale

/-- Words of the form `key=value`. -/
def assignments (t : Text) : List (Text × Text) :=
  (Text.words t).map fun word =>
    let (key, value) := Text.cut '=' word
    (key, value.getD [])

/-- Languages by codes that they replaced. -/
def languageAliases : List (Text × Text) :=
  assignments "aam=aas aar=aa abk=ab adp=dz afr=af agp=apf ais=ami ajp=apc ajt=aeb aju=jrb
    aka=ak alb=sq als=sq amh=am ara=ar arb=ar arg=an arm=hy asd=snz asm=as
    aue=ktz ava=av ave=ae aym=ay ayr=ay ayx=nun aze=az azj=az bak=ba bam=bm
    baq=eu baz=nvo bcc=bal bcl=bik bel=be ben=bn bgm=bcg bh=bho bhk=fbl bic=bir
    bih=bho bis=bi bjd=drl bjq=bzc bkb=ebk blg=iba bod=bo bos=bs bre=br btb=beb
    bul=bg bur=my bxk=luy bxr=bua cat=ca ccq=rki ces=cs cha=ch che=ce chi=zh
    chu=cu chv=cv cjr=mom cka=cmr cld=syr cls=sa cmk=xch cmn=zh cnr=sr_ME cor=kw
    cos=co coy=pij cqu=quh cre=cr cwd=cr cym=cy cze=cs daf=dnj dan=da dap=njz
    dek=sqm deu=de dgo=doi dhd=mwr dik=din diq=zza dit=dif div=dv djl=dze dkl=aqd
    drh=mn drr=kzk drw=fa_AF dud=uth duj=dwu dut=nl dwl=dbt dzo=dz ekk=et ell=el
    elp=amq emk=man eng=en epo=eo esk=ik est=et eus=eu ewe=ee fao=fo fas=fa
    fat=ak fij=fj fin=fi fra=fr fre=fr fry=fy fuc=ff ful=ff gav=dev gaz=om
    gbc=wny gbo=grb geo=ka ger=de gfx=vaj ggn=gvr ggo=esg ggr=gtu gio=aou gla=gd
    gle=ga glg=gl gli=kzk glv=gv gno=gon gom=kok gre=el grn=gn gti=nyc gug=gn
    guj=gu guv=duz gya=gba hat=ht hau=ha hbs=sr_Latn hdn=hai hea=hmn heb=he
    her=hz him=srx hin=hi hmo=ho hrr=jal hrv=hr hun=hu hye=hy ibi=opa ibo=ig
    ice=is ido=io iii=ii ike=iu iku=iu ile=ie ill=ilm ilw=gal in=id ina=ia ind=id
    ipk=ik isl=is ita=it iw=he izi=eza jar=jgk jav=jv jeg=oyb ji=yi jpn=ja jw=jv
    kal=kl kan=kn kas=ks kat=ka kau=kr kaz=kk kdv=zkd kgc=tdf kgd=ncq kgh=kml
    kgm=plu khk=mn khm=km kik=ki kin=rw kir=ky kmr=ku knc=kr kng=kg koj=kwv
    kom=kv kon=kg kor=ko kpp=jkm kpv=kv krm=bmf ktr=dtp kua=kj kur=ku kvs=gdj
    kwq=yam kxe=tvd kxl=kru kzh=dgl kzj=dtp kzt=dtp lak=ksp lao=lo lat=la lav=lv
    lbk=bnc leg=enl lii=raq lim=li lin=ln lit=lt llo=ngt lmm=rmx ltz=lb lub=lu
    lug=lg lvs=lv mac=mk mah=mh mal=ml mao=mi mar=mr may=ms meg=cir mgx=jbk
    mhr=chm mkd=mk mlg=mg mlt=mt mnt=wnn mo=ro mof=xnt mol=ro mon=mn mri=mi
    msa=ms mst=mry mup=raj mwd=dmw mwj=vaj mya=my myd=aog myt=mry nad=xny nau=na
    nav=nv nbf=nru nbl=nr nbx=gll ncp=kdz nde=nd ndo=ng nep=ne nld=nl nln=azd
    nlr=nrk nno=nn nns=nbr nnx=ngv nob=nb nom=cbr noo=dtd nor=no npi=ne nte=eko
    nts=pij nxu=bpp nya=ny oci=oc ojg=oj oji=oj ori=or orm=om ory=or oss=os
    oun=vaj pan=pa pat=kxr pbu=ps pcr=adx per=fa pes=fa pli=pi plt=mg pmc=huw
    pmk=crr pmu=phr pnb=lah pol=pl por=pt ppa=bfy ppr=lcq prp=gu prs=fa_AF
    pry=prt pus=ps puz=pub que=qu quz=qu rmr=emx rmy=rom roh=rm ron=ro rum=ro
    run=rn rus=ru sag=sg san=sa sap=aqt sca=hle scc=sr scr=hr sgl=isk sh=sr_Latn
    sin=si skk=oyb slk=sk slo=sk slv=sl smd=kmb sme=se smo=sm sna=sn snb=iba
    snd=sd som=so sot=st spa=es spy=kln sqi=sq src=sc srd=sc srp=sr ssw=ss
    sul=sgd sum=ulw sun=su swa=sw swc=sw_CD swe=sv swh=sw szd=umi tah=ty tam=ta
    tat=tt tdu=dtp tel=te tgg=bjp tgk=tg tgl=fil tha=th thc=tpo thw=ola thx=oyb
    tib=bo tid=itd tie=ras tir=ti tkk=twm tl=fil tlw=weo tmk=tdg tmp=tyj tne=kak
    tnf=fa_AF ton=to tpw=tpn tsf=taj tsn=tn tso=ts ttq=tmh tuk=tk tur=tr tw=ak
    twi=ak uig=ug ukr=uk umu=del unp=wro uok=ema urd=ur uzb=uz uzn=uz ven=ve
    vie=vi vol=vo wel=cy wgw=wgb wit=nol wiw=nwo wln=wa wol=wo xba=cax xho=xh
    xia=acn xkh=waw xpe=kpe xrq=dmw xsj=suj xsl=den xss=zko ybd=rki ydd=yi
    yen=ynq yid=yi yiy=yrm yma=lrr ymt=mtm yor=yo yos=zom yuu=yug zai=zap zha=za
    zho=zh zir=scv zkb=kjh zsm=ms zul=zu zyb=za"

/-- Regions by codes that they replaced. -/
def regionAliases : List (Text × Text) :=
  assignments "004=AF 008=AL 010=AQ 012=DZ 016=AS 020=AD 024=AO 028=AG 031=AZ 032=AR 036=AU
    040=AT 044=BS 048=BH 050=BD 051=AM 052=BB 056=BE 060=BM 062=034 064=BT 068=BO
    070=BA 072=BW 074=BV 076=BR 084=BZ 086=IO 090=SB 092=VG 096=BN 100=BG 104=MM
    108=BI 112=BY 116=KH 120=CM 124=CA 132=CV 136=KY 140=CF 144=LK 148=TD 152=CL
    156=CN 158=TW 162=CX 166=CC 170=CO 172=RU 174=KM 175=YT 178=CG 180=CD 184=CK
    188=CR 191=HR 192=CU 196=CY 200=CZ 203=CZ 204=BJ 208=DK 212=DM 214=DO 218=EC
    222=SV 226=GQ 230=ET 231=ET 232=ER 233=EE 234=FO 238=FK 239=GS 242=FJ 246=FI
    248=AX 249=FR 250=FR 254=GF 258=PF 260=TF 262=DJ 266=GA 268=GE 270=GM 275=PS
    276=DE 278=DE 280=DE 288=GH 292=GI 296=KI 300=GR 304=GL 308=GD 312=GP 316=GU
    320=GT 324=GN 328=GY 332=HT 334=HM 336=VA 340=HN 344=HK 348=HU 352=IS 356=IN
    360=ID 364=IR 368=IQ 372=IE 376=IL 380=IT 384=CI 388=JM 392=JP 398=KZ 400=JO
    404=KE 408=KP 410=KR 414=KW 417=KG 418=LA 422=LB 426=LS 428=LV 430=LR 434=LY
    438=LI 440=LT 442=LU 446=MO 450=MG 454=MW 458=MY 462=MV 466=ML 470=MT 474=MQ
    478=MR 480=MU 484=MX 492=MC 496=MN 498=MD 499=ME 500=MS 504=MA 508=MZ 512=OM
    516=NA 520=NR 524=NP 528=NL 530=CW 531=CW 532=CW 533=AW 534=SX 535=BQ 536=SA
    540=NC 548=VU 554=NZ 558=NI 562=NE 566=NG 570=NU 574=NF 578=NO 580=MP 581=UM
    582=FM 583=FM 584=MH 585=PW 586=PK 591=PA 598=PG 600=PY 604=PE 608=PH 612=PN
    616=PL 620=PT 624=GW 626=TL 630=PR 634=QA 638=RE 642=RO 643=RU 646=RW 652=BL
    654=SH 659=KN 660=AI 662=LC 663=MF 666=PM 670=VC 674=SM 678=ST 682=SA 686=SN
    688=RS 690=SC 694=SL 702=SG 703=SK 704=VN 705=SI 706=SO 710=ZA 716=ZW 720=YE
    724=ES 728=SS 729=SD 732=EH 736=SD 740=SR 744=SJ 748=SZ 752=SE 756=CH 760=SY
    762=TJ 764=TH 768=TG 772=TK 776=TO 780=TT 784=AE 788=TN 792=TR 795=TM 796=TC
    798=TV 800=UG 804=UA 807=MK 810=RU 818=EG 826=GB 830=JE 831=GG 832=JE 833=IM
    834=TZ 840=US 850=VI 854=BF 858=UY 860=UZ 862=VE 876=WF 882=WS 886=YE 887=YE
    890=RS 891=RS 894=ZM 958=AA 959=QM 960=QN 962=QP 963=QQ 964=QR 965=QS 966=QT
    967=EU 968=QV 969=QW 970=QX 971=QY 972=QZ 973=XA 974=XB 975=XC 976=XD 977=XE
    978=XF 979=XG 980=XH 981=XI 982=XJ 983=XK 984=XL 985=XM 986=XN 987=XO 988=XP
    989=XQ 990=XR 991=XS 992=XT 993=XU 994=XV 995=XW 996=XX 997=XY 998=XZ 999=ZZ
    AAA=AA ABW=AW AFG=AF AGO=AO AIA=AI ALA=AX ALB=AL AN=CW AND=AD ANT=CW ARE=AE
    ARG=AR ARM=AM ASC=AC ASM=AS ATA=AQ ATF=TF ATG=AG AUS=AU AUT=AT AZE=AZ BDI=BI
    BEL=BE BEN=BJ BES=BQ BFA=BF BGD=BD BGR=BG BHR=BH BHS=BS BIH=BA BLM=BL BLR=BY
    BLZ=BZ BMU=BM BOL=BO BRA=BR BRB=BB BRN=BN BTN=BT BU=MM BUR=MM BVT=BV BWA=BW
    CAF=CF CAN=CA CCK=CC CHE=CH CHL=CL CHN=CN CIV=CI CMR=CM COD=CD COG=CG COK=CK
    COL=CO COM=KM CPT=CP CPV=CV CRI=CR CS=RS CT=KI CUB=CU CUW=CW CXR=CX CYM=KY
    CYP=CY CZE=CZ DD=DE DDR=DE DEU=DE DGA=DG DJI=DJ DMA=DM DNK=DK DOM=DO DY=BJ
    DZA=DZ ECU=EC EGY=EG ERI=ER ESH=EH ESP=ES EST=EE ETH=ET FIN=FI FJI=FJ FLK=FK
    FQ=AQ FRA=FR FRO=FO FSM=FM FX=FR FXX=FR GAB=GA GBR=GB GEO=GE GGY=GG GHA=GH
    GIB=GI GIN=GN GLP=GP GMB=GM GNB=GW GNQ=GQ GRC=GR GRD=GD GRL=GL GTM=GT GUF=GF
    GUM=GU GUY=GY HKG=HK HMD=HM HND=HN HRV=HR HTI=HT HUN=HU HV=BF IDN=ID IMN=IM
    IND=IN IOT=IO IRL=IE IRN=IR IRQ=IQ ISL=IS ISR=IL ITA=IT JAM=JM JEY=JE JOR=JO
    JPN=JP JT=UM KAZ=KZ KEN=KE KGZ=KG KHM=KH KIR=KI KNA=KN KOR=KR KWT=KW LAO=LA
    LBN=LB LBR=LR LBY=LY LCA=LC LIE=LI LKA=LK LSO=LS LTU=LT LUX=LU LVA=LV MAC=MO
    MAF=MF MAR=MA MCO=MC MDA=MD MDG=MG MDV=MV MEX=MX MHL=MH MI=UM MKD=MK MLI=ML
    MLT=MT MMR=MM MNE=ME MNG=MN MNP=MP MOZ=MZ MRT=MR MSR=MS MTQ=MQ MUS=MU MWI=MW
    MYS=MY MYT=YT NAM=NA NCL=NC NER=NE NFK=NF NGA=NG NH=VU NIC=NI NIU=NU NLD=NL
    NOR=NO NPL=NP NQ=AQ NRU=NR NT=SA NTZ=SA NZL=NZ OMN=OM PAK=PK PAN=PA PC=FM
    PCN=PN PER=PE PHL=PH PLW=PW PNG=PG POL=PL PRI=PR PRK=KP PRT=PT PRY=PY PSE=PS
    PU=UM PYF=PF PZ=PA QAT=QA QMM=QM QNN=QN QPP=QP QQQ=QQ QRR=QR QSS=QS QTT=QT
    QU=EU QUU=EU QVV=QV QWW=QW QXX=QX QYY=QY QZZ=QZ REU=RE RH=ZW ROU=RO RUS=RU
    RWA=RW SAU=SA SCG=RS SDN=SD SEN=SN SGP=SG SGS=GS SHN=SH SJM=SJ SLB=SB SLE=SL
    SLV=SV SMR=SM SOM=SO SPM=PM SRB=RS SSD=SS STP=ST SU=RU SUN=RU SUR=SR SVK=SK
    SVN=SI SWE=SE SWZ=SZ SXM=SX SYC=SC SYR=SY TAA=TA TCA=TC TCD=TD TGO=TG THA=TH
    TJK=TJ TKL=TK TKM=TM TLS=TL TMP=TL TON=TO TP=TL TTO=TT TUN=TN TUR=TR TUV=TV
    TWN=TW TZA=TZ UGA=UG UK=GB UKR=UA UMI=UM URY=UY USA=US UZB=UZ VAT=VA VCT=VC
    VD=VN VEN=VE VGB=VG VIR=VI VNM=VN VUT=VU WK=UM WLF=WF WSM=WS XAA=XA XBB=XB
    XCC=XC XDD=XD XEE=XE XFF=XF XGG=XG XHH=XH XII=XI XJJ=XJ XKK=XK XLL=XL XMM=XM
    XNN=XN XOO=XO XPP=XP XQQ=XQ XRR=XR XSS=XS XTT=XT XUU=XU XVV=XV XWW=XW XXX=XX
    XYY=XY XZZ=XZ YD=YE YEM=YE YMD=YE YU=RS YUG=RS ZAF=ZA ZAR=CD ZMB=ZM ZR=CD
    ZWE=ZW ZZZ=ZZ"

/-- The full forms of languages that known locales use. -/
def likelyForms : List (Text × Text) :=
  assignments "aa=aa_Latn_ET ab=ab_Cyrl_GE af=af_Latn_ZA agq=agq_Latn_CM ak=ak_Latn_GH
    am=am_Ethi_ET an=an_Latn_ES ann=ann_Latn_NG apc=apc_Arab_SY ar=ar_Arab_EG
    arn=arn_Latn_CL as=as_Beng_IN asa=asa_Latn_TZ ast=ast_Latn_ES az=az_Latn_AZ
    ba=ba_Cyrl_RU bal=bal_Arab_PK bas=bas_Latn_CM be=be_Cyrl_BY bem=bem_Latn_ZM
    bew=bew_Latn_ID bez=bez_Latn_TZ bg=bg_Cyrl_BG bgc=bgc_Deva_IN bgn=bgn_Arab_PK
    bho=bho_Deva_IN blo=blo_Latn_BJ blt=blt_Tavt_VN bm=bm_Latn_ML bn=bn_Beng_BD
    bo=bo_Tibt_CN br=br_Latn_FR brx=brx_Deva_IN bs=bs_Latn_BA bss=bss_Latn_CM
    bua=bua_Cyrl_RU byn=byn_Ethi_ER ca=ca_Latn_ES cad=cad_Latn_US cch=cch_Latn_NG
    ccp=ccp_Cakm_BD ce=ce_Cyrl_RU ceb=ceb_Latn_PH cgg=cgg_Latn_UG cho=cho_Latn_US
    chr=chr_Cher_US cic=cic_Latn_US ckb=ckb_Arab_IQ co=co_Latn_FR cs=cs_Latn_CZ
    csw=csw_Cans_CA cu=cu_Cyrl_RU cv=cv_Cyrl_RU cy=cy_Latn_GB da=da_Latn_DK
    dav=dav_Latn_KE de=de_Latn_DE dje=dje_Latn_NE doi=doi_Deva_IN dsb=dsb_Latn_DE
    dua=dua_Latn_CM dv=dv_Thaa_MV dyo=dyo_Latn_SN dz=dz_Tibt_BT ebu=ebu_Latn_KE
    ee=ee_Latn_GH el=el_Grek_GR en=en_Latn_US eo=eo_Latn_001 es=es_Latn_ES
    et=et_Latn_EE eu=eu_Latn_ES ewo=ewo_Latn_CM fa=fa_Arab_IR ff=ff_Latn_SN
    fi=fi_Latn_FI fil=fil_Latn_PH fo=fo_Latn_FO fr=fr_Latn_FR frr=frr_Latn_DE
    fur=fur_Latn_IT fy=fy_Latn_NL ga=ga_Latn_IE gaa=gaa_Latn_GH gd=gd_Latn_GB
    gez=gez_Ethi_ET gl=gl_Latn_ES gn=gn_Latn_PY gsw=gsw_Latn_CH gu=gu_Gujr_IN
    guz=guz_Latn_KE gv=gv_Latn_IM ha=ha_Latn_NG haw=haw_Latn_US he=he_Hebr_IL
    hi=hi_Deva_IN hnj=hnj_Hmnp_US hr=hr_Latn_HR hsb=hsb_Latn_DE ht=ht_Latn_HT
    hu=hu_Latn_HU hy=hy_Armn_AM ia=ia_Latn_001 id=id_Latn_ID ie=ie_Latn_EE
    ig=ig_Latn_NG ii=ii_Yiii_CN io=io_Latn_001 is=is_Latn_IS it=it_Latn_IT
    iu=iu_Cans_CA ja=ja_Jpan_JP jbo=jbo_Latn_001 jgo=jgo_Latn_CM jmc=jmc_Latn_TZ
    jv=jv_Latn_ID ka=ka_Geor_GE kaa=kaa_Cyrl_UZ kab=kab_Latn_DZ kaj=kaj_Latn_NG
    kam=kam_Latn_KE kcg=kcg_Latn_NG kde=kde_Latn_TZ kea=kea_Latn_CV
    ken=ken_Latn_CM kgp=kgp_Latn_BR khq=khq_Latn_ML ki=ki_Latn_KE kk=kk_Cyrl_KZ
    kkj=kkj_Latn_CM kl=kl_Latn_GL kln=kln_Latn_KE km=km_Khmr_KH kn=kn_Knda_IN
    ko=ko_Kore_KR kok=kok_Deva_IN kpe=kpe_Latn_LR ks=ks_Arab_IN ksb=ksb_Latn_TZ
    ksf=ksf_Latn_CM ksh=ksh_Latn_DE ku=ku_Latn_TR kw=kw_Latn_GB kxv=kxv_Latn_IN
    ky=ky_Cyrl_KG la=la_Latn_VA lag=lag_Latn_TZ lb=lb_Latn_LU lg=lg_Latn_UG
    lij=lij_Latn_IT lkt=lkt_Latn_US lmo=lmo_Latn_IT ln=ln_Latn_CD lo=lo_Laoo_LA
    lrc=lrc_Arab_IR lt=lt_Latn_LT ltg=ltg_Latn_LV lu=lu_Latn_CD luo=luo_Latn_KE
    luy=luy_Latn_KE lv=lv_Latn_LV mai=mai_Deva_IN mas=mas_Latn_KE mdf=mdf_Cyrl_RU
    mer=mer_Latn_KE mfe=mfe_Latn_MU mg=mg_Latn_MG mgh=mgh_Latn_MZ mgo=mgo_Latn_CM
    mhn=mhn_Latn_IT mi=mi_Latn_NZ mic=mic_Latn_CA mk=mk_Cyrl_MK ml=ml_Mlym_IN
    mn=mn_Cyrl_MN mni=mni_Beng_IN moh=moh_Latn_CA mr=mr_Deva_IN ms=ms_Latn_MY
    mt=mt_Latn_MT mua=mua_Latn_CM mus=mus_Latn_US my=my_Mymr_MM myv=myv_Cyrl_RU
    mzn=mzn_Arab_IR naq=naq_Latn_NA nb=nb_Latn_NO nd=nd_Latn_ZW nds=nds_Latn_DE
    ne=ne_Deva_NP nl=nl_Latn_NL nmg=nmg_Latn_CM nn=nn_Latn_NO nnh=nnh_Latn_CM
    no=no_Latn_NO nqo=nqo_Nkoo_GN nr=nr_Latn_ZA nso=nso_Latn_ZA nus=nus_Latn_SS
    nv=nv_Latn_US ny=ny_Latn_MW nyn=nyn_Latn_UG oc=oc_Latn_FR om=om_Latn_ET
    or=or_Orya_IN os=os_Cyrl_GE osa=osa_Osge_US pa=pa_Guru_IN pap=pap_Latn_CW
    pcm=pcm_Latn_NG pis=pis_Latn_SB pl=pl_Latn_PL pms=pms_Latn_IT prg=prg_Latn_PL
    ps=ps_Arab_AF pt=pt_Latn_BR qu=qu_Latn_PE quc=quc_Latn_GT raj=raj_Deva_IN
    rhg=rhg_Rohg_MM rif=rif_Latn_MA rm=rm_Latn_CH rn=rn_Latn_BI ro=ro_Latn_RO
    rof=rof_Latn_TZ ru=ru_Cyrl_RU rw=rw_Latn_RW rwk=rwk_Latn_TZ sa=sa_Deva_IN
    sah=sah_Cyrl_RU saq=saq_Latn_KE sat=sat_Olck_IN sbp=sbp_Latn_TZ sc=sc_Latn_IT
    scn=scn_Latn_IT sd=sd_Arab_PK sdh=sdh_Arab_IR se=se_Latn_NO seh=seh_Latn_MZ
    ses=ses_Latn_ML sg=sg_Latn_CF shi=shi_Tfng_MA shn=shn_Mymr_MM si=si_Sinh_LK
    sk=sk_Latn_SK skr=skr_Arab_PK sl=sl_Latn_SI sma=sma_Latn_SE smj=smj_Latn_SE
    smn=smn_Latn_FI sms=sms_Latn_FI sn=sn_Latn_ZW so=so_Latn_SO sq=sq_Latn_AL
    sr=sr_Cyrl_RS ss=ss_Latn_ZA ssy=ssy_Latn_ER st=st_Latn_ZA su=su_Latn_ID
    sv=sv_Latn_SE sw=sw_Latn_TZ syr=syr_Syrc_IQ szl=szl_Latn_PL ta=ta_Taml_IN
    te=te_Telu_IN teo=teo_Latn_UG tg=tg_Cyrl_TJ th=th_Thai_TH ti=ti_Ethi_ET
    tig=tig_Ethi_ER tk=tk_Latn_TM tn=tn_Latn_ZA to=to_Latn_TO tok=tok_Latn_001
    tpi=tpi_Latn_PG tr=tr_Latn_TR trv=trv_Latn_TW trw=trw_Arab_PK ts=ts_Latn_ZA
    tt=tt_Cyrl_RU twq=twq_Latn_NE tyv=tyv_Cyrl_RU tzm=tzm_Latn_MA ug=ug_Arab_CN
    uk=uk_Cyrl_UA ur=ur_Arab_PK uz=uz_Latn_UZ vai=vai_Vaii_LR ve=ve_Latn_ZA
    vec=vec_Latn_IT vi=vi_Latn_VN vmw=vmw_Latn_MZ vo=vo_Latn_001 vun=vun_Latn_TZ
    wa=wa_Latn_BE wae=wae_Latn_CH wal=wal_Ethi_ET wbp=wbp_Latn_AU wo=wo_Latn_SN
    xh=xh_Latn_ZA xnr=xnr_Deva_IN xog=xog_Latn_UG yav=yav_Latn_CM yi=yi_Hebr_UA
    yo=yo_Latn_NG yrl=yrl_Latn_BR yue=yue_Hant_HK za=za_Latn_CN zgh=zgh_Tfng_MA
    zh=zh_Hans_CN zu=zu_Latn_ZA"

/-- The full forms of pairs. -/
def likelyPairs : List (Text × Text) :=
  assignments "az_IQ=az_Arab_IQ az_IR=az_Arab_IR ha_SD=ha_Arab_SD kk_CN=kk_Arab_CN
    mn_CN=mn_Mong_CN pa_PK=pa_Arab_PK sd_IN=sd_Deva_IN sr_ME=sr_Latn_ME
    uz_AF=uz_Arab_AF yue_CN=yue_Hans_CN zh_HK=zh_Hant_HK zh_MO=zh_Hant_MO
    zh_TW=zh_Hant_TW"

end Phrasebook.Locale
