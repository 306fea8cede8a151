import Phrasebook.Unicode.Properties

/-!
# Likely regions

The region in which a language is most likely meant, by ISO 3166 code or UN M.49 number.
-/

namespace Phrasebook.Locale

/-- Regions, each with the languages that are most likely meant there. -/
def regionLanguages : List (String × String) :=
  [
    ("001", "avk bzt dws eo ia igs io jbo ldn lfn neu nov qya tok tzl vo zba"),
    ("AE", "ssh"),
    ("AF", "aee aiq ask bsh glh gwt haz isk jat mhj mnj nli pbt phv prc ps psh psi sdg
      sgy sts tra trm uzs wbk wsv xvi"),
    ("AG", "aig"),
    ("AL", "sq"),
    ("AM", "axm hy hyw rmi"),
    ("AO", "blv cjk dhm hng hol khu kmb kwy kwz lch lum mck mfu mxg nba ndq nkn nne nql
      nsx nye nyk olu pnd umb xdo yax"),
    ("AR", "axb crq crt moc mzh ona plg pue qus teh tob ule vil wlv"),
    ("AT", "bar"),
    ("AU", "adg adt aea aer aid ajn alh aly amg amx amy amz ant aoi ard are avm awg awk
      axe axl ayd bcj bck bdy bia bjb bjy bpl bpt bvr bxi bxj bxn bym bzr coa dax
      dbl dda ddj ddr dgn dgt dgw dhg dhl dhr dhu dhx dif dja djb djd djf dji djj
      djn djr djw dmd dmw drl dth dwu dwy dyb dyd dyn dyy dze eaa err fln gbb gbd
      gbu gbw gcd gdc gdh gdj gdt ggd gge ggk gia gih giy gjm gjr gko gll gma gmr
      gni gnl gnn gnr gtu gue guf gup gvn gvy gwm gwu gww gyd gyf gyy hrp ibd ihw
      iin ikr ilg jan jao jay jbi jbw jig jng jui kba kbe kda kdd kgl kgs kjn kkp
      kky kld ktd ktg kux kuy lby lbz lja ljw ljx lkm lku llj lmc lnj lnw lrg mec
      mem mep mfr mhg mpb mpc mph mpj mvl mwf mwp nam nay nbj nck ngk nha nhf nid
      nig nji nju nlw nly nmp nmv nna nnr nnv nny nrk nrl nrx ntg ntj nug nuy nwg
      nwo nxn nyh nys nyt nyv nyx okg olk pit piu pjt pkn pmd pnj pnv pnw pti rbp
      rit rkw rmb rnr rop rrt rxd rxw tbh tcs tgz thd tiw tjj tjp tju tjw typ ugb
      uky ulk umd umg ump umr ung unn urc urf uwa vka vku vma vmb vmi vml vmu waq
      wbp wbt wbv wdj wdk wdu wdy weg wga wgg wgu wgy wie wif wig wih wij wik wil
      wim wkr wkw wky wlg wlu wmb wmi wmt wnd wnm wnn wny woa wrb wrg wrh wri wrk
      wrl wrm wro wrr wrw wrz wth wua wub wur wux wwb wwr wxw wyb wyi xbb xbd xbe
      xbg xbj xbp xby xda xdk xgd xgg xgi xgm xgu xgw xjb xjt xmh xmp xmq xmu xmy
      xni xnk xnm xnu xny xpa xpb xpd xpf xph xpj xpl xpt xpv xpw xpx xpz xrd xrg
      xru xth xtv xud xul xun xut xwd xwj xwk xwt xww xxm xya xyb xyj xyk xyt xyy
      yda yga ygi ygu yia yii yij yil ylr ynd yrm yry yty yub ywg ywr yww yxa yxg
      yxl yxm yxu yxy yyr zku zma zmc zmd zme zmg zmj zmk zml zmm zmr zmt zmu zmv
      zmy znk"),
    ("AZ", "az bdk kjj kry tkr tly ttt xag"),
    ("BA", "bs"),
    ("BB", "bjs"),
    ("BD", "aot bn ccp ctg ekl mjx mro pkh rkt sdr syl tnv tpe usi"),
    ("BE", "vls wa"),
    ("BF", "bbo bfo bib bof box bwj bwq bwy bxl cme cpo dgd dgi dgs dnn dos dya dyu gna
      gux kfz knz kqg kst kza lee lob mos nnw nti nuv pnl pnq pug rkm sbd sen sep
      seq sif skq sld sos stj sym tiq tsp tuz vig wbf wib xrb"),
    ("BG", "bg"),
    ("BH", "abv"),
    ("BI", "rn"),
    ("BJ", "ajg aug ayb bba beh blo bly bqa bqc cbj cib ddn dop fod fon fue gbh gbs gbx
      guw ica idd ijj kqk mkl mql mxl nqg nqk ntm pil soy sxw tbz tfi wem wwa xkb
      xwe xwl"),
    ("BN", "bsb kxd"),
    ("BO", "aro ay brg caj cao cap cas cav caw cax caz cyb ese gnw gui gyr ign ite ito
      jor lec mtp mzp pcp pnk psm puq qul rey sar srq tna tno trn ure yuq yuz"),
    ("BR", "aan aap acs adw ait ama api apn apu apv apy aqz arj ark arr aru arx asn asu
      atr atx avo avv awe awt axg bkq bor ccd cin cul des dny fun gqn gta gub gun
      gvc gvj gvo gvp hir hix hrx irn jaa jbt jua jup jur kav kay kbb kbc kgk kgp
      kmv knm knt kpj kpn kqq kre ktn ktx kui kuq kwa kxo kyr kyz kzw lkd ltn mav
      mbc mbj mbl mdz mmh mmv mnd mpd mpq mpu mpw msp myp myu mzo mzr nab nuc opy
      orw oti otu oym pab pad paf pah pak pav pax paz pir plu pog pok prr pt pth
      pto pur pyn ram rkb sae shb sik skf slj sru suy swo swx tae taf tba tca ter
      tgv tka tkf tme tpk tpn tpr tpy tqb trz tud tuo tux twt txi txu uam umo unk
      urb urp uru urz vkm waf wau waw wca wir wmd wsu wyr xai xaj xat xav xbw xer
      xet xir xiy xkr xmo xok xoo xor xpk xpn xra xre xri xtw xwa xxr xyl yab yaw
      ybn yrl yro ywn zkp"),
    ("BS", "bah"),
    ("BT", "bro cgk dka dz dzl goe kjz lkh luk lya neh npb ole sgt tgf tsj xkf xkz"),
    ("BW", "brl gnk gwj hio hnh huc mhw nhr nmn shg two tyu xkv yey"),
    ("BY", "be"),
    ("BZ", "bzj mop"),
    ("CA", "abe alq asb atj bcr bea bla blc bue caf cay chp clc coo cr crg crj crk crl
      crm crx csw den dgr dtd geh git gwi hai has hax hei hur ikt iu kkz kut kwk
      lil mic moe moh ncg nsk nuk oj ojb ojc ojs ojw oka one ono otw pdt pqm scs
      sec sek shs squ srs sto str tce tgx thp tht tsi ttm tus wdt"),
    ("CD", "agh alz asv bbe bbm bcp bct bhy bip biz bja bkf bkp bkt bli bmb bmg bml bni
      bnx boh bpj bqu brf brm buf buu bwl bws bww bxg byi bzm bzo dez diz dno doo
      dzn efe flr fom fuu gey gix gox hav hba hem hke hoo hum jgb job kbj kcv kcw
      kdg kel kg khx khy kkq kmw kny kpl ksv ktf ktu kty kws kzy lal lea led lej
      lel les lgm lgz lie lik liz lmi ln lnz log lol loo loq lse lu lua luj lvl
      lwa mdi mdj mdk mdm mdp mdq mfc mmz mnh msj mwz mxh myc nbd nbw ndk ndl ndt
      ndw nga ngb ngc nix niy nkw nlj nlo nnb noq nto nuu nxd nyc nyg nyj nzd okc
      omi oml pae pem pmb pof ppp rnd shc shr skt slx smx sng soc sod soe soo sop
      sub swf szg tap tbm tbt tek tii tll tmv tor vau won yaf yel ymg yng yns yom
      zla zmb zmf zmp zmq zms zmw zmz zne"),
    ("CF", "aiy axk bbp bdt bff bfl bjo bkg bkj bme boy bpd bqk bvq deq dgk gba gbg gbp
      gbq gbv gdi geq gnz gso gyg kah kbn kcm ksp kuw kym liy lna lnl mcx mdn mgn
      mzv nbm ndy ngd ngg nmj nue nzk pnz sbz sg snj sqm ukh vae yaj yky yul"),
    ("CG", "akw beq bkw bmw bok bui bvx bwz dde ebo ifm iyx kkw koh kwc kxx ldi lli mbm
      mdt mdu mdw mkw moj mow nda ndn ngz njx nzu sdj tsa tyi tyx vif xku zmx"),
    ("CH", "gsw rm rmo wae"),
    ("CI", "aba abi abu adj ahi ahm ahp ald any ati avi bci bet bev bjw bqv btg das dic
      dnj dyi ebr ega eot esm ggu gie gnj goa god gov gud gwa gxx hwa jek jod jud
      kfo kga kqm ktj kwp kxb kyf kzc lda loi lor mka moa mtb mxx neb ney nhb nku
      nwb plr pye seb sef sev ted tgw tjn wan wec wob xgb yre"),
    ("CK", "pkp pnh rar rkh"),
    ("CL", "alc arn huh kuz rap yag"),
    ("CM", "aal abb add ael agq ags aku anv asj ass ato azo baf bag bas bav baw bax bbi
      bbj bbk bbq bbw bbx bby bce bcw bdn bdu beb bec bfd bfj bfm bfp bgf bgj bhs
      biw bju bkc bkh bkm bko bmo bmv bnz boe bpc bqd bqm bqo bqt bqz bri bse bsi
      bss btc bum bvg bvm bwh bwt bxp bxs byb byv bzv ckx cnq cuv dae dbq dii dkx
      dme dmm dmo dow dua dur duz ekm emn emz eto ewo fak fal fll fmp fub gid gis
      giz gke gmm gmn gnd gou gyi hij hna hya isu iyo jbu jgo jia jim kdz ken kfl
      kfn kid kkj klc kme kmp knp kot kqx ksf kvj kvm kwu kzr lbi lem leo lfa lmp
      lmx lns luw maf mbo mcp mcs mct mcu mdd mea meq mfd mff mfh mfi mfj mfk mgg
      mgo mhk mif mij mkk mlb mlr mlw mmu mnf mpi mqb mru msv mtk mua muc mug muo
      muy mxf mxu myg mzd nbv ncr ndb ndu nfu nge ngj ngn ngv ngy nhu njj njy nkc
      nla nmg nml nmr nnh nnz nsh nvo nwe nza obl oku ost ozm pbi pfe pmm pmn pny
      sgi sox swq szv tik toz tsh ttf tui tvu twn udl uiv usk vut weh wes wok www
      xed xmb xmd xmg xmj yam yas yat yav ybb yei yko zhw zuy"),
    ("CN", "acn adx aeu aib atb bca bfc bfs blr bo buh bwx bxu byk cdo cjy cng cnp cpx
      cqd csp cuu czh doc dta duu ers gan hak hma hmd hmj hmm hmn hmp hmq hms hmw
      hmy hmz hni hnm how hrm hsn ii ili ium jiu jiy jya khb khg kmc ktp lcp lhi
      lhu lic lis lpo ltc luh lwm lzh mjg mji mmd mmr mnc mnp muq mvf nan nos nru
      nsd nsf nsv nuf nxq otb oui pcc pmi pmj sce sfm sjc slr smh srh swi tdd tji
      tjs txg ug vwa wbm wuu xmn xzh ybe ycl ygp yig yiv yna ysd ysn ysp ysy ywq
      ywu za zch zeh zgb zgm zgn zh zhd zhn zkt zlj zln zlq zqe zyg zyj zyn zzj"),
    ("CO", "aca ana ano ans arh bao bdc bmr bsn cbb cbc cbd cbg cbv cby chb cmi coe crf
      cto cub cui gob guc guh gum guo hto icr inb inj kbh kog kpc kvn kwi mbn mbp
      mbr mcl mot myy noa noj pbb pij pio pln pui sja slc snn sri tav tbn tdc ten
      tit tnb tnc tnd ttk tue tuf ycn ynu yui yup"),
    ("CR", "brn bzd cjp gut"),
    ("CU", "luq"),
    ("CV", "kea"),
    ("CW", "pap"),
    ("CY", "acy ecy"),
    ("CZ", "cs czk"),
    ("DE", "de dsb frk frr frs gmh gml goh hsb ksh nds osx pfl stq swg sxu vmf wep yec
      yih"),
    ("DK", "da jut rmd"),
    ("DZ", "aao arq grr kab kcy mey mzb shy thv tjo"),
    ("EC", "acu auc cbi cof jiv mue qud qug quw qvi qvj qvz qxl qxr sey teb zro"),
    ("EE", "et ie vro"),
    ("EG", "aec ar arz avl cop egy siz xnz"),
    ("ER", "byn kun nrb ssy tig"),
    ("ES", "an ast ca es eu ext fax gl gnc mxi osp quq rmq xaa xvn"),
    ("ET", "aa agj ahg aiw alw am amf anu arv awn bcq bji bst bsw bwo cra dox drs dwr
      gax gdl gez gmv gof gru guk gwd gyl hae har hdy ior jnj kbr kmq kqy ktb kxc
      lgn liq mdx mdy mfx moy mpe muz mvz myf mym nnj om oyd sgw she sid stv suq
      ti tsb wal wle wti xan zay zwa"),
    ("FI", "fi rmf smn sms"),
    ("FJ", "bwb fj goo hif llx lmv rtm wyy"),
    ("FM", "chk kos kpg mkj mrl ngm nkr nmt nuw pfa pif pon puw stw uli woe yap"),
    ("FO", "fo"),
    ("FR", "br co emx fr frm fro frp obt oc pcd pro xbm zrp"),
    ("GA", "bbg buw dma gev kbs keb koq kzo lup mhb mye nmd nra nxo nzb pic puu sak sbw
      snq swj sxe syi syx tck teg tsv vum wdd wum zmn"),
    ("GB", "ang cnx cy enm gd ghc kw nrn oco owl pi pld rme rmw sco trl wlm xpi"),
    ("GD", "gcl"),
    ("GE", "ab bbl bhn jge ka oav os sva uum xmf"),
    ("GF", "eme gcr"),
    ("GH", "abr acd ada adq afh afu aha ak akp anf avn bim biv bov bwu cko cli cll cpn
      dag dga doy ee gaa gjn gpe gur gwx hag jmr jwi kma kph kus kye lar lef lgq
      lig lip maw mzw naw ncu nfr nko nkq nlu nnu ntr nyb nzi saf sfw sig sil snw
      ssl tcd tpm vag wlx wss xkt xon xsm xxb"),
    ("GL", "kl"),
    ("GM", "man mnk wof"),
    ("GN", "bcg bgo bmd bqf bsp bsv fuf gkp jad kke knu kqs ldm llc lma mbv mfg naj nqo
      pbp sus tod yal zil"),
    ("GP", "gcf"),
    ("GQ", "bng bnm bvb bxc fab fan fpe nui"),
    ("GR", "aat cpg ecr el gmy grc lab pnt ruq tsd yej"),
    ("GT", "acr agu caa cac cak ckz itz ixl jac kek kjb knj mam poc poh quc qum quv ttc
      tzj usp xin"),
    ("GU", "ch"),
    ("GW", "bab bif bjg ble ccj eja kcj knf msw pbo pov"),
    ("GY", "ake aox brc gyn mzx pbc skw tdm wap"),
    ("HK", "yue"),
    ("HN", "cab jic pay"),
    ("HR", "ckm dlm hr ist ruo"),
    ("HT", "ht hvc"),
    ("HU", "hu lng ohu qwm"),
    ("ID", "aax aaz abl abs abz ace adn adr afz agf ahh aip air akb akc akg alo alp amk
      amq amv and aol aos aoz apg apx aqm asc asi asl asy asz atq auq auu auw awh
      awr aws awu awv awy ayz bac baj ban bay bbc bcd bdb bdl bdw bdx bed bei bep
      beu bew bfe bfg bgb bgv bgy bgz bhc bhp bhq bhv bhw bhz bjn bkl bkn bkr bkz
      bld blf blj bls blz bna bnd bne bnf bnq bnu bnv bpg bpo bpp bpq bpv bpz bqb
      bqq bqr brp brs bsa bsm bsu btd bti btj btm bts btx bty btz bug bup bve bvk
      bvt bvu bvz bwp byd byl bzb bzl bzn bzp bzq bzu cia cml cns daz dbe dbf dbn
      ddw dei dem dij diy djo dkk dmr dms dmu dmy dna dni dnk dnt dnw dok drn dsn
      dun dup duq duv duw ebc eip ekg emb emw end eno enr ert erw etz fau flh frd
      gak gay gbi gef gei ges gop goq gor grs gzn had hap heg hik hji hmu hov hrk
      hti htu hud huk huw hvn ibu id ihb ihp ila ilu imr in ire irh irx ism itd
      itx iwo jal jaq jau jax jbj jbr jei jel jka jmd jv jvd jw kaw kax kbi kbv
      kcd kdw kdy kei kgb kge kgq kgr kgv kgw kgx khc khd khe khh khp kig kiq kiy
      kja kjc kje kjk kjr kkb kkl kkv kkx kli klw kly klz kmt knd knl knx kod kpd
      kpi kpq kps kpu kqv krz ksx kti kts ktt kuc kuk kuv kvb kvd kvh kvo kvp kvr
      kvv kvw kvz kwe kwh kwr kwt kxq kyd kyo kyt kzb kzd kzf kzl kzm kzp kzu kzv
      kzx kzz lau law lbw lbx lcc lcd lce lcf lcl lcq lcs lev lew lex ley lgi lhh
      lio liw lix lje lji ljl ljp llg llm llq lmf lmj lmq lmr lmy lnd loa loe lox
      lpe lrn lrt lti ltu lur lvu lwe lwt mad mak max mdr mej mfb mfp mgf mgk mhp
      mhs mhy mhz min mkn mky mli mmb mnb mnu mnx mnz mog mok moq mpy mqa mqc mqf
      mqg mqi mqj mqn mqo mqp mqr mqs mqx mqy mrf mrx mrz msf msg msl mso mss mtd
      mtg mth mtj mui mvd mvp mvr mvs mvx mwv mxd mxn mxz myl mzq naa nae nbn nbq
      ndx nea nec ner nfa nia nij nil nir njs nkj nks nlc nlk nni nps npy nqm nsy
      nxe nxg nxl nxx oia oni onx opk orz osi otd pas pdn pdo pea pee pel pey pgu
      pku ple plh pmf pmo pmy pnc pni pnp pns ppk ppm pru psa pse psn ptn ptt ptu
      puc pud puf puj put rac ran raz reb rej ret rgu rir riu rjg rmh rmm rnn rob
      ror row rth saj sao sas sau saw sbg sbr sbt sbx scg sda sdq sdu set seu sge
      sgu sjb skh ski sko skv skx skz slg slp slu sly slz smr smw snu sob spb spi
      spr sre srl srt srw ssq ste su sve swr sws swt swu sxn sya szb szn szp szw
      tad tbp tby tcg tcm tcq tdi tdj tdn tds tes tev tfo tft tip tjg tkx tlb tld
      tlg tlk tln tlt tlu tlv tmg tmj tml tmn tmu tni tnm tnt tnw tom toy tpf tpg
      tre trt tti ttn ttp tty tuj tve tvm tvo tvw twe twg twu twy txe txm txn txq
      txs txt tyn tzn udj ues uhn uka ulf ulm ulu ums unz urn ury vbb vkk vkl vko
      vkt vme vms vto wad wah wai wbb wbe wbw weo wet wew wfg wgo wha whk whu wkd
      wli wlo wlw wmm wms wng wnk wno wod woi woo wor wow wrp wru wrx wsa wtw wul
      wuy xau xay xbr xdy xem xkd xke xkl xkn xkq xks xkw xmm xmt xmx xmz xod xse
      xte xwr xxk xxt yac yet yir yki yli ymn yrs yva zbt zka zrs"),
    ("IE", "ga mga pgl sga sth yol"),
    ("IL", "aij bhh bjf hbo he huy iw jbe jpr jrb jye lad lsd smp tmr trg yhd yud"),
    ("IM", "gv"),
    ("IN", "aaf adi adl agi aho ahr aim aio ajz all anm anp anq anr apt as asr awa bdv
      bee bfb bfq bfu bfw bfy bfz bgc bgd bgg bgq bgr bgw bha bhb bhd bhi bho bht
      bhu biu bix biy bjj bkk bns bpx bpy bra brw brx caq cde cdf cdh cdi cdj cdn
      cdz cih clk cna crv ctt cty cvg daq dcc der dhn dho dis dln doi dso dub duh
      dwk emu era esg fmu gac gaq gas gau gbj gbk gbl gbm gdb gdx gnb goj gok gon
      gra grt gu haj hi hii hkh hlb hmr hne hoc hoj hoy hra hru idb iru jda jna
      jnl jns jun juy kbg kdq kev kex key kfa kfb kfc kfd kfe kff kfg kfh kfi kfk
      kfp kfq kfr kfs kfu kfv kfw kfx kfy kha khn khr kht kix kjo kkf kmj kmm kn
      knn kok kru ks ksu ksz kwx kxv kyw lae lax lbf lbj lbm lep lmk lmn lus mag
      mai mhu mjl mjq mjr mjt mju mjv mjw mkb mke ml mni mr mrg mrh mrr mtr mut
      muv mwr mxj nag nbc nbe nbi nbt nbu ncb nct nit njb njh njm njn njo njz nkb
      nkd nkf nkh nki nlx nma nme nmf nmh nmo nng nnl nnp noe noi nph npo npu nre
      nri nsa nsm nst nzm omp omr onp oon or ort oty pa pbv pcf pcg pch pci pcj
      pck peg pgg phd phk pka pkr pmh pmx prx psu pub pwr rah raj rei ria rmz rnl
      rtw rwr sa sat saz sbu sch sck scu sgj sgp sii sip sjl sjp smt spt spv srb
      srx suv swv ta tcx tcy tcz tdb te tgj tkb tro trp try tvt twm txo udg uki
      unr unx vaa vah vap vas vav vjk vkp vmd wbq wbr wsg wtm xis xnr xub xuj yea
      yeu yim zau zom zrg"),
    ("IQ", "acm aii akk ayp bjm ckb kqd mid sdb sdf syr"),
    ("IR", "ae arc atn avd azb bqi def esh fa fay faz gbz glk gzi hac hrz kfm kho klj
      kmz ktl lki lrc lrl lsa luz myz mzn ntz nyq pal peo prd qxq rdb rmt sdh sgr
      shm siy smy sqo srz syn tks tov vaf vmh xkc xkj xkp xly xpr xtq"),
    ("IS", "is"),
    ("IT", "aae cim cms egl ett fur ims it itk lij lld lmo mhn nap nrp osc pgn pms rgn
      sbv sc scn scx sdc sdn sro svm vec xrr xum xve xvo xvs"),
    ("JE", "nrf"),
    ("JM", "jam"),
    ("JO", "obm"),
    ("JP", "ain ams ja ryu yoi"),
    ("KE", "bob coh cuh dal dav dig dsh dug ebu elo enb eyo guz ida kam ki kln lkb lko
      lks lri lrm lto lts luo luy lwg mas mer mlk muu mws niq nle nyd nyf oki omt
      orc pkb pko rag rel saq sgc sgm ssn sxb tec tga thk tuv tuy tvs"),
    ("KG", "dng ky"),
    ("KH", "brb cja km krr krv okz pcb rka smu syo tpu xhm"),
    ("KI", "gil"),
    ("KM", "wni zdj"),
    ("KR", "jje ko okm oko"),
    ("KW", "afb"),
    ("KZ", "kk"),
    ("LA", "alk brv khf kjg kuf lbn lbo lo lvi mlf ncq ngt oyb pho sct sqq sss thi tth
      tto"),
    ("LB", "phn"),
    ("LC", "acf"),
    ("LK", "sci si"),
    ("LR", "blh bsq bza dee gec ggb glr gol grb grj grv gry klu kpe kqo krn kro krw kss
      lir lom mev mzj oub tja vai"),
    ("LT", "kdr lt olt sgs"),
    ("LU", "lb"),
    ("LV", "liv ltg lv"),
    ("LY", "auj ayl gha jbn"),
    ("MA", "ary gho rif shi tzm zgh"),
    ("MD", "gag"),
    ("MG", "bhr bmm bzc mg msh skg tdx tkg txy xmv xmw"),
    ("MH", "mh"),
    ("MK", "mk"),
    ("ML", "aqd bm bmq boo boz bxw bze bzx dba dbg dbt dbu dbw dds dgb djm dmb dsq dti
      dtk dtm dto dts dtt dtu dux dym ffm hmb jow kao khq mwk myk nzz ses shz snk
      spp taq tde tst xkg"),
    ("MM", "ahk anl blk bwe cbl cek cey cfm ckn clj clt cmr cnb cnh cnk cnw csh csj csv
      csy ctd cth czt dao dnu dnv eky ghk hlt hpo int jkm jmn kac kjp kkh ksw kvl
      kvq kvt kvy kxf kxk kyu lpn lsi lzn mhx mnw mwq mwt my nlq npg nqq nqy ntx
      nun nxk obr omx pce pdu pll prk pwo pyx pyy pzn raw rbb rhg ril rki rtc sez
      shn stu tco tcp tjl tlq tvn ukk umn weu zkd zyp"),
    ("MN", "bxm cmg mn otk ykh"),
    ("MP", "cal tpv"),
    ("MR", "zen"),
    ("MT", "mt"),
    ("MU", "mfe"),
    ("MV", "dv"),
    ("MW", "kzn lai lon nkv ny nyr swk tog tum"),
    ("MX", "afs amu azd azg azm azn azz cco chd chf chj chq chz cip cle clo cly cnl cnt
      cob coc coj cok coz cpa crn csa cso cta cte ctl ctp ctu ctz cuc cut cux cuy
      cvn cya czn dih emm eud hch hue hus huv hve hvv ixc jmx klb lac maa mab maj
      maq mat mau maz mbz mce mco mdv meh mfy mhc mib mie mig mih mii mil mim mio
      mip mir mit miu mix miy miz mjc mks mmc mpm mqh mto mtu mtx mvg mxa mxb mxp
      mxq mxs mxt mxv mxy mza mzi mzl naz nch nci ncj ncl ncx neq ngu nhc nhe nhg
      nhi nhk nhm nhn nhp nhq nht nhv nhw nhx nhy nhz nlv npl nsu ntp nuz ocu opt
      ote otl otm otn otq ots ott otx otz pbe pbf pbm pbs pca pei pia plo pls pmq
      pmz poe poi poq pos pow ppi pps pua pxm sei stp tac tar tbu tcf tcu tcw tee
      tep thh tku tla tlc tlp toc toj too top tos tpc tpl tpp tpt tpx tqt trc trq
      trs tsz twr tzh tzo var vmc vmj vmm vmp vmq vmx vmy vmz xpo xta xtb xtd xti
      xtj xtl xtm xtn xtp xts xtt xtu xty xzp yaq yua zaa zab zac zad zae zaf zam
      zao zap zaq zar zas zat zav zaw zax zca zoc zoh zoo zoq zor zos zpa zpb zpc
      zpd zpe zpf zpg zph zpi zpj zpk zpl zpm zpn zpo zpp zpq zpr zps zpt zpu zpv
      zpw zpx zpy zpz zsr zte ztg ztl ztm ztn ztp ztq zts ztt ztu ztx zty"),
    ("MY", "abf bdg bdr bnb bny bsy bth btq ccm cwg dbj dkr dmg dmv dpp drg dro dtb dtp
      dtr gnq grm iba ilm jah jak jhi kag knq kns kqr kqt kve kxi kxn kyi kys kzi
      kzs lhn lkj llk lnh low lra mcm mel meo mhe mnq mqq ms msi mvv mxr mzt nrm
      ntd orn ors pez plz pna pne pnm ree ruu sbo sdo sdx sea sib skp sne snv spg
      srk ssm sza szc tea tgb tgq tih tmo tmw trx ttw txa txx umi xbn xky zbc zbe
      zbw zlm zmi"),
    ("MZ", "bwg cce chw cwb dmx eko llb mgh mhm mny ndc ngl nyu phm rng seh tke toh tsc
      twl twx vmk vmr vmw wmw xmc xnq xsq yao ymk"),
    ("NA", "diu fwe hgm hz kj knw ktz kwm kwn lnb naq ng sbs vaj xuu"),
    ("NC", "aek aji ane aok aqr axx bpk bwa cam cir cks dhv duf fwa hvk iai jas jaz kdk
      mkt mrk msq nee nek nem nen nua piz pme pop pri sih uve wmn yly"),
    ("NE", "bms dje fuh fuq kby krt tda tez thz tmh twq"),
    ("NF", "pih"),
    ("NG", "aaa aab abm abn abo acb acp adu afe afn afo agb agc ahn ahs aik ajw akd akf
      ala alf amb amo anc ank ann anw aqg aqk asg atg aum auo awc awo aye ayi ayk
      ayu bau bbs bbt bbu bcn bcs bcv bcy bde bga bgu bil bin bka bkv bky bma bol
      bom bqp bqw bqx brt bsf bsj bsl bsr bsx bta bte btt btu buj bus bux buz bvh
      bvj bvw bwr bxo bxq byc byf byj byp bys bzw bzy bzz cbo cbq ccg cch cdr cen
      cet cfa cfd cfg cie ckl cky cla cry cxh dam dbb dbd dbi dbm dbo dbp dbv deg
      dgh dio dir dkg dmf doh dot dri dsk dwa dyr dza dzd ebg efa efi ego ehu eka
      eke eki ekp ekr elm ema enn env enw epi erh etb ets etu etx evh eza eze fah
      fam fie fir fkk fli fum fuv gbr gby gde gdf gdu gea ged geg gek gel gew gib
      gkn glb glo glw gmd gmz gne gnh gpa gqa grd grh gua gvm gwb gwg gwn gye gyz
      ha hbb hia hig hod hoe hwo ibb ibe ibm ibn ibr iby ich idc ide ids idu ig
      igb ige igl igw ihi ijc ije ijn ijs ikh iki ikk ikl iko ikp ikv ikw ilv iqw
      iri ish isi iso itm its itw iya izm izr izz jab jaf jbm jen jer jgk jib jid
      jie jjr jku jmb jmi jms jni jrr jrt jub juh juk juo juu juw kad kai kaj kbz
      kcc kce kcf kcg kch kci kcq kcs kdl kdm kdp kdx kes kez kgt khj kil kka kkd
      kkm kkr kks kku klk klo kmi kmy kna kni koc kof kov kow kpa kpk kr krh krp
      ksm kso ksq ktc kub kug kuh kul kwb kwl lan ldb ldd ldg ldh ldj ldk ldl ldo
      ldp ldq lla lnu lop mae mbu mcj mda mew mfl mfm mfn mfo mgi mgj mjs mkf mko
      mma mmf moi mrt mtl mzk mzm nar nat nbb nbh nbo nbp nbr ndd ndi ndr ned nfd
      ngi ngs ngw ngx nin nja njr nkx nkz nmi nqt nsc nuh nup nzr obu oda odu ofu
      ogb ogc ogg ogo ogu okb okd oke okr oks okx olm opa org orr orx oso pai pbl
      pbn pcm pcn pcw pgs pip piy png pqa pwb pym pze rax res rin rod rsw ruk ruy
      ruz say scv scw sde sha sho sir sqa sqh sur sxs syk tak tal tan tdk tdl tdo
      tdq tdv tgd thy tiv tkq tsw ttb ttr tul tvd tvi txj tye tyy uba uda uha uji
      ukp ukq uku ukw ula ulb uly umm une urh uss uta uth utr uya vem ver vit vkn
      vkz vor wav wja wji wma wom xab xoc xsh xsn yay yaz yba ybj ybl yer yes ynq
      yo yot yun zah zaz zbu zem zhi ziz zlu zns"),
    ("NI", "bzk miq mom mtn rma sut ulw yan"),
    ("NL", "act drt dum fy gos li nl odt ofs stl twd zea"),
    ("NO", "fkv nb nn no rmg se"),
    ("NP", "aph bap bhj bmj brd byh byw cdm chx ctn dhi dhw dre drq dry dty dus dwz emg
      ghe ght gvr gyo hut jee jml jul kgj kgy kif kip kjl kkt kle klr kra kte kyv
      lbr lhm lif lmh loy luu mgp mjz mrd muk nao ncd ne new nmm nwc nwx ola phw
      pum raa rab raf rav rji rjs scp skj soi suz syw taj tcn tdg tdh tge the thf
      thl thq thr ths tij tkt ttz vay wme xsr ybh ybi"),
    ("NR", "cpi na"),
    ("NU", "niu"),
    ("NZ", "mi rrm"),
    ("OM", "acx adf bhm hoh hss luv shv zum"),
    ("PA", "cuk emp gym sab scf tfr"),
    ("PE", "aga agr amc ame amr anb arl ash atc avs ayc boa cah cbr cbs cbt cbu ccc cht
      cjo cni cod cot cox cpb cpc cpu cpy cuj hib hub hug huu hux inp iqu isc jeb
      jqr kaq mcb mcd mcf mts myr not oca omc omg omu ore pib pig pno prq qu qub
      quf quk qup qur qux quy qva qvc qve qvh qvl qvm qvn qvo qvp qvs qvw qwa qwc
      qwh qws qxa qxc qxh qxn qxo qxp qxt qxu qxw rem rgr shp sni spq trr ura yaa
      yad yme"),
    ("PF", "aut mqm mrq mrv pmt ray ty"),
    ("PG", "aac aad aag aah aai aak aau aaw abg abt abw aby ado adz aew aey aez afd afi
      afk afp agd age agg agl agm ago aic aie aif ail aix akh aki akq akt ali alx
      amm amn amp amt anh anj anx anz aob aod aoe aof aog aoj aom aon ape apo apr
      aps apz aso asx ata ate aui auk aun aup aur auy avb avt awb awi awm aww awx
      aya ayq bbb bbd bbf bbn bbr bbv bcf bch bcm bco bcu bdd bdf bef bek beo bey
      bfh bhf bhg bhl bie big bio biq bir bit bjc bjh bjk bjl bjp bjr bjz blq bmc
      bmh bmk bmn bmp bmu bmx bmz bnp bnw boj bon bop boq bow bpe bpi bpm bpu bpw
      bql bqs brq bry brz btp buk buo buq but buv bvn bwd bwf bwk bwm bxf bxh bxz
      bye byr byx byz bzf bzh can cga cjn cjv ckr dac dad dah dby ddi ded dev dge
      dgg dgx dgz dia dju dmc dnd dnr doa dob dof dol don duc dui duk dva dww eit
      eiv ele elk elu emi ena enq eri etr faa fad fag fai faj ffi fiw foi for fqs
      frq fuy gaf gah gai gaj gam gao gap gar gat gaw gbe gbf gcc gcn gdd gdn gdr
      geb gfk ggl ggt ggw ghs gim gip gka gkd gmg gmu gnm gnt gnu goc goi gpn grg
      grq grw grx grz gsn gsp gve gvf gvs gyb hah ham hao hgw hhi hhy hih hkk hla
      hmt ho hob hot hrc hrw huf hui hul ian iar idi igg igm igo imi imn imo ino
      iou ipi ipo isa itr iwm iws jae jbk jet jil jko jma jmw kbk kbm kbq kbt kbw
      kbx kcb kcl kco kct kdf keh kew kgf kgu khl khs khz kih kij kis kit kiw kjd
      kjs kjx kjy kkc klh klm klp klq klt klx kmf kmg kmh kmn kmo kms kmu kmx knr
      knv koa kol kop koz kpf kpr kpw kpx kqa kqb kqc kqf kqi kqj kql kqw ksd kse
      ksi ksj ksl ksr ktk ktm kto kud kue kuo kup kvc kvg kwj kwo kxa kxr kxt kxw
      kxz kyc kyg kyx kyy kze laz lbb lbq lbu lbv lcm lei lek leq ler let leu lgt
      lib lid lih lkl lle llf lll lmg lni lnm loj los lsr luf lxm mbh mbk mbq mbw
      mbx mcc mci mcq mcr mcv mcy mcz mdb mdc mds meb med mee mek met meu mft mfw
      mgl mgt mgu mhf mhl miw mjj mjk mjm mjn mkc mkp mkr mle mlh mlp mmi mmo mmp
      mmq mmt mmx mna mnm mox mpl mpn mpo mpp mps mpt mpv mpx mqe mqv mqw mqz msu
      msx msy msz mtc mtf mti mtv mty mum mux mva mvk mvn mvq mwa mwb mwc mwg mwh
      mxk mxm mxw myw mze mzu mzz nac naf nak nal nas nax nbk nby nca ncc nce ncf
      ncm ncn nco nej net nex nho nib nif nii nis niw niz nkg nkm nmw nmx nnf nnk
      nnm noc nof noh nop nou npn nqn nrz nsn nss nud nuq nur nux nvm nwr nxr oin
      okk okv omo omw ong onj onk onn onr ons ont opm opo oro osu oue oum owi oyy
      pby pda ped pek pep pex pgi pin pix pkg pla pmr pnn pnr ppe ppn ppo ppq ppt
      prm prw psq pss ptp pup pux pwa pwg rai rak rao rea rhp rmk rmp roe roo rpt
      rro rwa rwo sbc sbe sbh sbi sbq sdk sej seo sew sgz sij sim siq siu siv siw
      six sjr skc skm sks sll slw smb smc smf smg smq smz snc snp snr snx sny snz
      sol soq sow spd spe spk spl spm sps sra srf sry ssd ssg ssj sso sst ssu ssx
      ssz stf stk stm sua sue sug sui suo svb swm swp taw tbc tbd tbf tbg tbj tbo
      tbs tbv tbx tci tei tgc tgi tgo tgu tif tim tio tkv tlf tlx tmd tmq tmy tnh
      tns tof tpa tpi tpz tqm tqo tqp trb trh tsx ttd tte ttu ttv tua tuc tuh twp
      tww tya tzx uar ubr ubu ufi uis ukg uln una uni unu upi urg uri urm uro urt
      urv urw urx usa usu utu uvh uvl val vam van viv vmg wab wag waj wat wax waz
      wdg wed wei wer wgb wgi whg wii wiu wiv wla wmc wmo wmx wnb wnc wnp wnu woc
      wog wos wrs wrv wsk wsr wtf wtk wut wuv xar xbi xes xeu xkx xla xoi xop xow
      xrw xsi xsp ybm ybo ybx yby yde ydk yee yev ygl ygm ygr ygw yis ykk ykm ykr
      yla ylb yle ylg yll ylu ymb yml ymo ymp ynb ynl yob yon yra yrb yrw yss ytw
      yuj yut yuw ywa yyu zeg zgr zia zik zmh zsa zsu zuh"),
    ("PH", "abc abd abp abx agk agn agt agv agy agz akl alj apf aqn atd atk atl atm atp
      att atz ays ayt azt bfx bgi bgs bik bjx bkd bks bku bln blw blx bnc bnj bno
      bpr bps btn bto btw bvy bya cbk cbw ceb cgc clu cps cts cyo daw dgc due dul
      duo duy dyg ebk esy fbl fil gad gdg hil hnn ibg ibl ifa ifb ifk ifu ify ilk
      ilo ilp inn iry isd itb iti itt itv ity ivb ivv iwk kak kkg klg kll kmd kmk
      kml knb kne kqe krj ksc ksn ktq kyb kyj kyk kyn laa lbl loc mba mbb mbd mbi
      mbs mbt mdh mkx mlz mmn mqk mrw mry msb msk msm mta mtw obk obo pag pam plc
      plv plw prf prh pwm rbk rbl rol sbl sfe sgb sgd sjm skn slm smk sml snl srg
      srv ssb sse stb suc syb tbk tbl tbw tdy tgn tgt tis tiu tiy tl tsg twb ubl
      vbk war xnn xsb yka yog"),
    ("PK", "aeq bal bdz bft bgn bgp bhe brh bsk btv clh deh dmk dml ggg ghr gig gjk gju
      gwc gwf hnd hno jdg jnd jog kbu khw kls kvx kxp lah lrk lss mby mki mve mvy
      nlm odk oru pgd phl phr plk pst sbn scl sd shd skr trw ur ush vgr wbl wne
      xhe xka ydg"),
    ("PL", "csb pl prg rml sli szl wym"),
    ("PR", "tnq"),
    ("PS", "jpa sam"),
    ("PT", "drc mwl"),
    ("PW", "pau sov tox"),
    ("PY", "aqt ayo cag ceg enl enx gn guq gva mca nhd pta spn tmf tpj"),
    ("RE", "rcf"),
    ("RO", "mo ro rom rup"),
    ("RS", "rmn rsk sr"),
    ("RU", "abq ady agx akv alr alt ani aqc atv av ba bph bua ce chm cji cjs ckt clw cu
      cv dar ddo dlg enf enh eve evn gdo gin gld huz inh itl izh jdt kap kbd kca
      ket khv kim kjh koi kpt kpy krc krk krl kum kv kva lbe lez lud mdf mns mrj
      mtm mud myv ndf neg nio niv nog oaa oac olo omk orv ru rut sah sel sia sjd
      sjt sty tab tin tt tyv ude udi udm ugh ulc vep vot xal xas xdq xpm xrm xrn
      xwo ykg ynk yrk ysr yug yux zko zkz"),
    ("RW", "rw"),
    ("SA", "acw ars fif xna"),
    ("SB", "agw aia alu apb aua aud baa bgt blb blp brr bvc bvd bxa dor faf far gga ghn
      gmb gri hoa jaj kji kkk ksg kwd kwf kzk lga lgb lgl lgr lgu llu lvk mln mlu
      mnv mpr mrn mte mvo nfl ngr nke nlg nlz npx ntu ojv ora pis piv rri rug sbb
      sky stn svs tbe tkp tkw tlr tnx tqu tva uge utp vnk vrs"),
    ("SC", "crs"),
    ("SD", "acz apd bdi bej brk daj dec dgl dil fia fvr gza hbn jle jum kcp kec keg kgo
      kib kko liu lmd lro mls mor nyi otr shj shw tag taz tbi teq tey tic udu xmr
      xom xtc zag zmo"),
    ("SE", "fit non ovd rmu sje sju sma smj sv"),
    ("SG", "mbf"),
    ("SI", "sl"),
    ("SK", "rmc sk"),
    ("SL", "bmf bun buy knk kno kri lia lok men tem"),
    ("SN", "bcb bcz bda bjt bqj bsc cae cou csk cwt dyo fap ff gsl hhr krx mfv mlo ndv
      sav snf srr tnr wo"),
    ("SO", "gex so xma ymm"),
    ("SR", "ako arw djk hns jvn kww njt srm srn tri way"),
    ("SS", "aja atu avu bdh bdj bex bfa blm bot bvi bxb ddd dib did din dip diw dks fer
      gbn hom idr imt kbo koe krs lgo lkr lky loh lot lpx lqr lul lwo mfz mgc mgd
      mqu muh mur mwu myj ndz njl nus nwm oie pga shk tex tgy thu toq ukv"),
    ("ST", "aoa cri pre"),
    ("SV", "ccr len ppl"),
    ("SX", "vic"),
    ("SY", "amw apc lhs oar uga"),
    ("TC", "tch"),
    ("TD", "amj bdm bdo bes bid bjv bmi bso btf bub bva bvf bvo bxv ckq daa dai dau djc
      dsi dzg fgr fni fui gab gdk gdm glc glj glu goy gqr gvl hed hor jeu jyy kbl
      ker kia kie klf kou kqp kth kvf kvi kwg kwv kxj kyq lap lln lme mcn mcw mde
      mdg mes mgb mge mje mlj mmy mne mou moz mpg mpk mse mub muj mvh mvu mwm myb
      ndm nie nmc nnc nnn noy nzy rou saa sba sbj shu sjg sok sor swy sys tax tma
      tmc tng trj tug tuq ubi vkj xuo zim zna zrn"),
    ("TG", "ade ahl aks ayg bqg bud gej gng ife kbp kdh kef keu kpo las mfq nmz wci wud"),
    ("TH", "bzi cbn cog kdt kjt kxm lwl mfa mkm mpz mqt mra nod nyl nyw pht phu prt pww
      skb soa sou th thm tts ugo urk yoy"),
    ("TJ", "abh paq sgh tg yah yai"),
    ("TK", "tkl"),
    ("TL", "adb bfn bkx ddg gal hbu idt kem krd lka lva mgm mjb mkz nxa tdt tet tkd wlh
      wmh"),
    ("TM", "chg tk"),
    ("TN", "aeb pml sds"),
    ("TO", "num to"),
    ("TR", "bgx hit hlu hrt htx imy kiu ku lzz nei oht ota syc tr tru uby xcr xlc xld
      xpg xsd zza"),
    ("TT", "tgh trf"),
    ("TV", "tvl"),
    ("TW", "ami bnn ckv dru fos pwn pyu pzh ssf sxr szy tao tay trv tsu tvx uon xnb xsy
      ycr"),
    ("TZ", "aas asa bdp bds bez bou ccl cwa cwe dhs dne doe egm fip gmx gog gow gwe han
      haq hay heh hka hts ikz irk isn jit jmc kcu kcz kdc kde ked kiv kiz kki kqh
      ksb kuj kya lag mgq mgs mgv mgw mgy mgz mhd mjh mpa mvw mwe ndg ndh ndj ngp
      ngq nih nim njd nkt nnq now nsg ntk nww nxi nym nyy old pbr piw poy reg rim
      rnw rof ruf rui rwk rwl sad sbk sbm sbp seg soz ssc suj suk suw sw tcc tny
      vid vin vun wbh wbi wbj wka wtb wun xnj zaj zak zga zin ziw"),
    ("UA", "crh got jct ji rue uk yi"),
    ("UG", "ach adh cgg gwr ikx kcn kdi kdj keo koo kpz laj lg lgg lke lsm lth luc mhi
      myx ndp nuj nyn nyo nyp rub ruc rwm snm teo teu tlj ttj xog"),
    ("US", "aaq acv aes aht akz ale apj apk apl apm apw ari arp ase ats atw cad cea chh
      chl chn cho chr chy cic ciw cjh cku clm col com coq crd cro crz csm css cst
      csz ctc ctm cup dak del ems en esi ess esu eya fla frc gul haa haw hid hnj
      hoi hop hup hwc ik iml ing iow kee kic kio kjq kju kla koy krb ksk ktw kuu
      kyh kyl lkt lmw lou lui lut mez mhq mia mik mjd mjy mnr mod mov mrc mus mww
      myh ncz nez nmu nnt nok nsq nsz nv obi oma ood osa pao par paw pdc peb peq
      pim pmw pom poo pot puy qua qui qun qwt qyp sac see ser shh sht sis sjw ska
      skd slh sln sno spo taa tau tcb tew tfn til tix tli tol tow tqn tqw tub tun
      tuu twa twf uma und unm ute veo waa wac wam was wic win wiy wnw wyn xaw xch
      xnt xpq yak yok yuc yuf yum yur zun"),
    ("UZ", "auz kaa sog uz xco"),
    ("VA", "la"),
    ("VC", "crb svc"),
    ("VE", "aoc bae bvv bwi car ciy cuo gae gct guu jru mcg mch mht pbg pbh pev pid spc
      tmz wba wpc xak xsu yae yar yau yvt"),
    ("VI", "dcr"),
    ("VN", "aem bdq blt bru cje cjm cma cmo cnc crw cua enc giq gir hal hld hmf hmv hre
      hro ibh jeh jra kjm kpm kta ktv kxy laq lbt lgh lha lkc lwh mlc mng mnn moo
      mtq neo nty nuo nut pac phg phh puo rad ren rgs rmx roc rog scb sed stg sti
      stt tas tdr tkz tmm tou tsl twh tyh tyj tyl tyr tys tyt tyz vi xao xhv zng"),
    ("VU", "ahb akr alm aor app aty aul bi bki bnk bnr bpa brj btr crc dix erg erk etn
      fnb frt fut hiw iff klv krf lgk lht lkn llp lmb lml lmu lnn lpa lrv lrz lww
      lzl mkv mla mll mlv mlx mme mmg mmm mmw mnl mrb mrm mrp mrs msn mtt mvt mwi
      mwo mxe nkk nmb nmk nms nnd nrg nsw nvh nwi olr omb onu pgk plb pma psw ptr
      ptv rga rpn sax ske sku sns ssv sww tgp tgs tlm tls tmb tmi tmt tnk tnl tnn
      tnp tql tsr tvk upv urr uur vao vlp vnm vnp vra vrt wlr wsi wwo"),
    ("WF", "fud wls"),
    ("WS", "sm"),
    ("XK", "aln"),
    ("YE", "acq ayh ayn gdq sqt xsa"),
    ("YT", "buc swb"),
    ("ZA", "af cmt fly fng gic gku kqu kqz ngh nr nsb nso oor ss st tn ts ve xam xeg xh
      xii zu"),
    ("ZM", "auh bem bwc ilb kqn lam leb leh loz lue lun lyn mgr mho mwn mxo nka nse sby
      shq sie sta toi ttl"),
    ("ZW", "dov kck kdn mxc nd nmq sn")]

/-- The table by texts. -/
def likelyRegions : List (Text × List Text) :=
  regionLanguages.map fun (region, languages) => (region, Text.words languages)

/-- The locale that a language most likely means: its subtags between underscores, the territory last. The
script is left out. -/
def likelySubtags? (language : Text) : Option Text :=
  (likelyRegions.find? fun (_, languages) => language ∈ languages).map fun (region, _) =>
    language ++ CodePoint.underscore :: region

end Phrasebook.Locale
