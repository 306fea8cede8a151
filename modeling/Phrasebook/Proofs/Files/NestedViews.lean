import Phrasebook.Proofs.Files.Built
import Phrasebook.Proofs.Files.Views
import Phrasebook.Proofs.Tree.Growth

/-!
# The flat and the nested view of plain JSON files

Both views of a document go through its texts (`textsIn`), each with the dotted name of the group that it is in. The
tree lists a leaf for each text, with the text as its value, and writes the groups on the way to it without empty
segments (`addMembers_gains`). The catalog has an entry under each dotted key, for the last text that has it
(`get?_foldItems`). The entry keeps the text as the stored form and decodes it once more.

So the views go by the same keys where all groups are paths, and they say the same of the stored form, but not of the
text: what is seen of an entry is the decoded form of what is seen of the leaf (`Format.json_views`).
-/

namespace Phrasebook.Files

open Phrasebook.Group (IsPath listed segments tidied within)

variable {o : Options} {mode : Mode}

/-! ## The texts of a document -/

namespace Nested

mutual

/-- The texts in a value that stands under a name in a group, at all depths. -/
def textsOf (group name : Text) : Json → List Item
  | .text value => [⟨group, name, ⟨value, none⟩⟩]
  | .object members => textsIn (Tree.join group name) members
  | _ => []

/-- The texts in the members of a group, at all depths, each with the dotted name of its group. -/
def textsIn (group : Text) : List (Text × Json) → List Item
  | [] => []
  | (name, v) :: rest => textsOf group name.strip v ++ textsIn group rest

end

/-- Whether the stored form of a text holds placeholders. -/
def flag (mode : Mode) (i : Item) : Bool :=
  (Template.containsPlaceholders mode i.value.raw).toOption.getD false

/-- The entry of a text. -/
def entry (mode : Mode) (i : Item) : Entry := { i.entry mode with hasPlaceholders := flag mode i }

/-- The leaf of a text. -/
def leaf (mode : Mode) (i : Item) : Leaf := ⟨i.key, some i.value.raw, none, flag mode i⟩

/-! ## The catalog -/

theorem texts_of_raw (hkeeps : mode.keepsEscapedText = true) {i : Item} (hraw : i.value.decoded = none) :
    i.value.texts mode = (Text.unescape i.value.raw, some i.value.raw) := by
  rw [Written.texts, hraw]
  exact if_pos hkeeps

/-- An entry has the stored form, and the decoded one as its text. -/
theorem entry_texts (hkeeps : mode.keepsEscapedText = true) {i : Item} (hraw : i.value.decoded = none) :
    (entry mode i).escapedText = some i.value.raw ∧ (entry mode i).text = some (Text.unescape i.value.raw) := by
  have htexts := texts_of_raw hkeeps hraw
  exact ⟨congrArg Prod.snd htexts, congrArg (some ∘ Prod.fst) htexts⟩

/-- A text is looked through for placeholders in the form in which it is stored. -/
theorem makeEntry_text (ho : o.recognizeReferences = false) (hkeeps : mode.keepsEscapedText = true) {i : Item}
    (hraw : i.value.decoded = none) {e : Entry}
    (h : makeEntry o mode i.fullKey (some (i.value.texts mode).1) (i.value.texts mode).2 = .ok e) :
    e = entry mode i := by
  have hstored := texts_of_raw hkeeps hraw
  have hplain : ∀ t : Text, (some t).filter (isReference o.recognizeReferences) = none := by
    intro t
    rw [Option.filter_some, isReference, ho, Bool.false_and]
    rfl
  have hentry : i.entry mode = { Entry.ofKey i.fullKey with
      text := some (Text.unescape i.value.raw), escapedText := some i.value.raw } := by
    rw [Item.entry, hstored]
  rw [entry, hentry, flag]
  rw [hstored, makeEntry, hplain] at h
  dsimp only at h
  rw [if_pos hkeeps, Option.some_or] at h
  obtain ⟨found, hfound, hok⟩ := exists_of_bind h
  rw [hfound]
  exact (Except.ok.inj hok).symm

mutual

/-- A member adds its texts to a catalog, in order. -/
theorem foldlM_of_addMember {c c' : Catalog} {group name : Text} (v : Json)
    (h : addMember o mode (Tree.join group name) c v = .ok c') :
    (textsOf group name v).foldlM (Dialect.addItem o mode) c = .ok c' := by
  cases v with
  | text value =>
      rw [textsOf, List.foldlM_cons]
      have hadd : Dialect.addItem o mode c ⟨group, name, ⟨value, none⟩⟩ = .ok c' := h
      rw [hadd]
      rfl
  | object members =>
      rw [addMember] at h
      exact foldlM_of_addMembers members h
  | null | bool | int | double | array =>
      -- Values of other kinds are refused.
      simp [addMember] at h

theorem foldlM_of_addMembers {c c' : Catalog} {group : Text} (members : List (Text × Json))
    (h : addMembers o mode group c members = .ok c') :
    (textsIn group members).foldlM (Dialect.addItem o mode) c = .ok c' := by
  cases members with
  | nil =>
      rw [addMembers] at h
      exact h
  | cons member rest =>
      obtain ⟨name, v⟩ := member
      rw [addMembers] at h
      obtain ⟨c₁, hmember, hrest⟩ := exists_of_bind h
      rw [textsIn, List.foldlM_append, foldlM_of_addMember v hmember]
      exact foldlM_of_addMembers rest hrest

end

mutual

theorem decoded_of_mem_textsOf {group name : Text} (v : Json) : ∀ i ∈ textsOf group name v, i.value.decoded = none := by
  cases v with
  | text value =>
      intro i hi
      obtain rfl := List.mem_singleton.mp hi
      rfl
  | object members => exact decoded_of_mem_textsIn members
  | null | bool | int | double | array => exact fun i hi => nomatch hi

/-- No text comes decoded. -/
theorem decoded_of_mem_textsIn {group : Text} (members : List (Text × Json)) :
    ∀ i ∈ textsIn group members, i.value.decoded = none := by
  cases members with
  | nil => exact fun i hi => nomatch hi
  | cons member rest =>
      obtain ⟨name, v⟩ := member
      intro i hi
      rcases List.mem_append.mp hi with hi | hi
      · exact decoded_of_mem_textsOf v i hi
      · exact decoded_of_mem_textsIn rest i hi

end

/-- **The entry under a key is that of the last text with this dotted key**, letter case aside. -/
theorem get?_foldItems (ho : o.recognizeReferences = false) (hkeeps : mode.keepsEscapedText = true) {items : List Item}
    (hraw : ∀ i ∈ items, i.value.decoded = none) {c c' : Catalog}
    (h : items.foldlM (Dialect.addItem o mode) c = .ok c') (key : Text) :
    c'.get? key
      = ((items.reverse.find? fun i => i.fullKey.fold = key.fold).map (entry mode)).or (c.get? key) := by
  induction items using List.reverseRecOn generalizing c' with
  | nil =>
      obtain rfl := Except.ok.inj h
      rfl
  | append_singleton items i ih =>
      rw [List.foldlM_append] at h
      obtain ⟨c₁, hitems, hlast⟩ := exists_of_bind h
      rw [List.foldlM_cons] at hlast
      obtain ⟨c₂, hadd, hok⟩ := exists_of_bind hlast
      obtain rfl := Except.ok.inj hok
      obtain ⟨e, hmake, hput⟩ := exists_of_bind hadd
      obtain rfl := Except.ok.inj hput
      obtain rfl := makeEntry_text ho hkeeps (hraw i (by simp)) hmake
      have hrest := ih (fun j hj => hraw j (List.mem_append_left [i] hj)) hitems
      rw [List.reverse_append, List.reverse_singleton, List.singleton_append, List.find?_cons]
      show Pairs.get? key.fold (Pairs.put i.fullKey.fold (entry mode i) c₁.entries) = _
      -- The last item of a key wins, as it is put over the earlier ones.
      by_cases hkey : i.fullKey.fold = key.fold
      · rw [← hkey, Pairs.get?_put_self, decide_eq_true rfl]
        rfl
      · rw [Pairs.get?_put_of_ne fun heq => hkey heq.symm, decide_eq_false hkey]
        exact hrest

/-! ## The tree -/

/-- Where the tree has the leaf of a text, and the leaf. -/
def placed (mode : Mode) (i : Item) : Address × Leaf := (i.address, leaf mode i)

mutual

theorem placed_textsOf (group name : Text) (v : Json) :
    (textsOf group name v).map (placed mode)
      = ((textsOf [] name v).map (placed mode)).map (within ((segments group).map Text.fold)) := by
  cases v with
  | text value =>
      have haddress : Item.address ⟨group, name, ⟨value, none⟩⟩
          = (Item.address ⟨[], name, ⟨value, none⟩⟩).within ((segments group).map Text.fold) :=
        congrArg (Address.mk · name.fold) (List.append_nil _).symm
      rw [textsOf, textsOf, List.map_singleton, List.map_singleton, List.map_singleton]
      exact congrArg (fun a => [(a, leaf mode ⟨group, name, ⟨value, none⟩⟩)]) haddress
  | object members =>
      rw [textsOf, textsOf, Tree.join_nil, placed_textsIn (Tree.join group name), placed_textsIn name,
        List.map_map (l := (textsIn [] members).map (placed mode))]
      refine List.map_congr_left fun e _ => ?_
      show within _ e = within _ (within _ e)
      rw [Group.segments_joined, List.map_append]
      exact congrArg (fun groups => (Address.mk groups e.1.key, e.2)) (List.append_assoc _ _ _)
  | null | bool | int | double | array => rfl

/-- **The texts of a group are placed as from the root, within that group.** -/
theorem placed_textsIn (group : Text) (members : List (Text × Json)) :
    (textsIn group members).map (placed mode)
      = ((textsIn [] members).map (placed mode)).map (within ((segments group).map Text.fold)) := by
  cases members with
  | nil => rfl
  | cons member rest =>
      obtain ⟨name, v⟩ := member
      rw [textsIn, textsIn, List.map_append, List.map_append, List.map_append, placed_textsOf group,
        placed_textsIn group]

end

theorem leafFlag_text (ho : o.recognizeReferences = false) {t : Text} {b : Bool}
    (h : leafFlag o mode (some t) = .ok b) : b = (Template.containsPlaceholders mode t).toOption.getD false := by
  have hplain : isReference o.recognizeReferences t = false := by rw [isReference, ho, Bool.false_and]
  unfold leafFlag at h
  dsimp only at h
  rw [if_neg (by rw [hplain]; exact Bool.false_ne_true)] at h
  rw [h]
  rfl

/-- A leaf that was not refused is added. -/
theorem gains_of_addLeaf {g g' : Group} {l : Leaf} (hg : g.IsSound) (h : g.addLeaf l = .ok g') :
    g.Gains [(⟨[], l.key.fold⟩, l)] g' := by
  have hroot : (⟨g⟩ : Tree).addLeaf [] l = .ok ⟨g'⟩ := by
    show (do return ⟨← g.addLeaf l⟩ : Outcome Tree) = _
    rw [h]
    rfl
  have hfree := Tree.free_of_addLeaf (t := ⟨g⟩) hg hroot
  obtain ⟨g'', hok, hgains⟩ := Group.addLeaf_gains l hg hfree
  obtain rfl := Except.ok.inj (hok.symm.trans h)
  exact hgains

mutual

theorem addMember_gains (ho : o.recognizeReferences = false) {g g' : Group} (hg : g.IsSound) (name : Text) (v : Json)
    (h : Objects.addMember naming o mode name g v = .ok g') :
    g.Gains ((textsOf [] name.strip v).map (placed mode)) g' := by
  cases v with
  | text value =>
      obtain ⟨found, hfound, hadd⟩ := exists_of_bind h
      obtain rfl := leafFlag_text ho hfound
      exact gains_of_addLeaf hg hadd
  | object members =>
      rw [Objects.addMember] at h
      rw [textsOf, Tree.join_nil, placed_textsIn]
      refine Group.gains_of_update (fun hsound hok => ?_) (fun s hs => ?_) hg h
      · exact addMembers_gains ho hsound members hok
      · exact (Group.isName_of_mem_segments hs).1
  | null | bool | int | double | array =>
      simp [Objects.addMember] at h

/-- **A group gains a leaf for each text in the members that are added to it.** -/
theorem addMembers_gains (ho : o.recognizeReferences = false) {g g' : Group} (hg : g.IsSound)
    (members : List (Text × Json)) (h : Objects.addMembers naming o mode g members = .ok g') :
    g.Gains ((textsIn [] members).map (placed mode)) g' := by
  cases members with
  | nil =>
      rw [Objects.addMembers] at h
      obtain rfl := Except.ok.inj h
      exact ⟨rfl, hg, by rw [textsIn, List.map_nil, List.append_nil]⟩
  | cons member rest =>
      obtain ⟨name, v⟩ := member
      rw [Objects.addMembers] at h
      obtain ⟨g₁, hmember, hrest⟩ := exists_of_bind h
      have hgains := addMember_gains ho hg name v hmember
      rw [textsIn, List.map_append]
      exact hgains.trans (addMembers_gains ho hgains.sound rest hrest)

end

/-- The tree of a document is read from its members. -/
theorem exists_root {content : Option Content} {t : Text} {members : List (Text × Json)} {tree : Tree}
    (ht : decodeNonempty content = .ok (some t)) (hmembers : Objects.members t = .ok members)
    (htree : Format.json.tree o content = .ok (some tree)) :
    ∃ root, Objects.addMembers naming o .composite Tree.empty.root members = .ok root ∧ ⟨root⟩ = tree := by
  obtain ⟨t', ht', hread⟩ := exists_of_bind htree
  obtain rfl := Except.ok.inj (ht.symm.trans ht')
  have hread : (Objects.tree naming o .composite t).map some = .ok (some tree) := hread
  obtain ⟨tree', hobject, hsome⟩ := exists_of_map hread
  obtain ⟨members', hmembers', hobject⟩ := exists_of_bind hobject
  obtain rfl := Except.ok.inj (hmembers.symm.trans hmembers')
  obtain ⟨root, hroot, hok⟩ := exists_of_bind hobject
  exact ⟨root, hroot, (Except.ok.inj hok).trans (Option.some.inj hsome)⟩

/-- **A tree lists a leaf for each text**, under its name in its group without empty segments. -/
theorem flatten_perm (ho : o.recognizeReferences = false) {members : List (Text × Json)} {root : Group}
    (h : Objects.addMembers naming o mode Tree.empty.root members = .ok root) :
    ((Tree.flatten ⟨root⟩).map Tree.folded).Perm ((textsIn [] members).map fun i =>
      ((Tree.join (tidied i.group) i.key).fold, leaf mode i)) := by
  have hgains := addMembers_gains ho Tree.isSound_empty members h
  have hdotted := hgains.listed.map fun e => (e.1.dotted, e.2)
  refine (Tree.flatten_perm (t := ⟨root⟩) hgains.sound).trans (hdotted.trans (.of_eq ?_))
  show ((textsIn [] members).map (placed mode)).map _ = _
  rw [List.map_map]
  refine List.map_congr_left fun i _ => ?_
  exact congrArg (·, leaf mode i) (Tree.Growth.dotted_placed i.group (leaf mode i))

/-! ## Lookups -/

/-- Where no two texts have the same dotted key, every text has the entry under its own. -/
theorem find?_reverse {items : List Item} (honce : (items.map fun i => i.fullKey.fold).Nodup) {i : Item} (hi : i ∈ items)
    {key : Text} (hkey : key.fold = i.fullKey.fold) :
    (items.reverse.find? fun j => j.fullKey.fold = key.fold) = some i := by
  cases hfind : items.reverse.find? fun j => decide (j.fullKey.fold = key.fold) with
  | none =>
      have hmiss := List.find?_eq_none.mp hfind i (List.mem_reverse.mpr hi)
      exact absurd (decide_eq_true hkey.symm) hmiss
  | some j =>
      have hj : j ∈ items := List.mem_reverse.mp (List.mem_of_find?_eq_some hfind)
      have hhit := List.find?_some hfind
      have hfold : j.fullKey.fold = key.fold := of_decide_eq_true hhit
      exact congrArg some (List.inj_on_of_nodup_map honce hj hi (hfold.trans hkey))

end Nested

/-- **The two views of a plain JSON file.** The tree lists a leaf with its value for each text of the document, and
writes the groups without empty segments; the catalog has under a dotted key the entry of the last text with this key.
Where the dotted keys are distinct and all groups are paths, every listed key has an entry. The value of the leaf is its
stored form, and its text is the decoded one; so the two are the same exactly if there is nothing to decode. -/
theorem Format.json_views {content : Option Content} {locale : Text} {c : Catalog} {tree : Tree}
    (ho : o.recognizeReferences = false) (hcatalog : Format.json.catalog o content locale none = .ok (some c))
    (htree : Format.json.tree o content = .ok (some tree)) :
    ∃ t members, decodeNonempty content = .ok (some t) ∧ Objects.members t = .ok members ∧
      (tree.flatten.map Tree.folded).Perm ((Nested.textsIn [] members).map fun i =>
        ((Tree.join (tidied i.group) i.key).fold, Nested.leaf .composite i)) ∧
      (∀ key, c.get? key = ((Nested.textsIn [] members).reverse.find? fun i => i.fullKey.fold = key.fold).map
        (Nested.entry .composite)) ∧
      (((Nested.textsIn [] members).map fun i => i.fullKey.fold).Nodup →
        (∀ i ∈ Nested.textsIn [] members, IsPath i.group) →
        ∀ key l, (key, l) ∈ tree.flatten → ∃ e v, c.get? key = some e ∧ l.value = some v ∧
          e.escapedText = some v ∧ e.text = some (Text.unescape v) ∧ e.hasPlaceholders = l.hasPlaceholders ∧
          (e.text = l.value ↔ Text.unescape v = v)) := by
  obtain ⟨t, ht, hread⟩ := Format.exists_of_catalog hcatalog
  obtain ⟨members, hmembers, hadd⟩ := exists_of_bind (Format.eq_of_map_some hread)
  -- The tree is read from the same members.
  obtain ⟨root, hroot, rfl⟩ := Nested.exists_root ht hmembers htree
  have hlisted := Nested.flatten_perm ho hroot
  have hlookup : ∀ key, c.get? key = ((Nested.textsIn [] members).reverse.find? fun i =>
      i.fullKey.fold = key.fold).map (Nested.entry .composite) := by
    intro key
    have hget := Nested.get?_foldItems ho rfl (Nested.decoded_of_mem_textsIn members)
      (Nested.foldlM_of_addMembers members hadd) key
    rwa [show (Catalog.ofLocale none).get? key = none from rfl, Option.or_none] at hget
  refine ⟨t, members, ht, hmembers, hlisted, hlookup, fun honce hpaths key l hmem => ?_⟩
  obtain ⟨i, hi, hpair⟩ := List.mem_map.mp (hlisted.mem_iff.mp (List.mem_map_of_mem hmem))
  obtain ⟨hkey, rfl⟩ := Prod.mk.inj hpair
  have htidied : tidied i.group = i.group := hpaths i hi
  rw [htidied] at hkey
  have hentry := hlookup key
  rw [Nested.find?_reverse honce hi hkey.symm] at hentry
  have hkeeps : Mode.composite.keepsEscapedText = true := rfl
  obtain ⟨hescaped, htext⟩ := Nested.entry_texts hkeeps (Nested.decoded_of_mem_textsIn members i hi)
  refine ⟨_, i.value.raw, hentry, rfl, hescaped, htext, rfl, ?_⟩
  rw [htext]
  exact Option.some_inj

/-- Two texts in a group, one of them with a backslash in it. -/
def shareText : Text := "\x7b\"share\": \x7b\"path\": \"C:\\\\new\", \"title\": \"Main\"\x7d\x7d"

theorem json_views_share :
    Options.standard.recognizeReferences = false ∧
    ∃ c tree, Format.json.catalog .standard (some (.text shareText)) [] none = .ok (some c) ∧
      Format.json.tree .standard (some (.text shareText)) = .ok (some tree) ∧
      tree.flatten.map Prod.fst = [("share.path" : Text), "share.title"] ∧
      ∀ key l, (key, l) ∈ tree.flatten → ∃ e v, c.get? key = some e ∧ l.value = some v ∧
        e.escapedText = some v ∧ e.text = some (Text.unescape v) ∧ e.hasPlaceholders = l.hasPlaceholders ∧
        (e.text = l.value ↔ Text.unescape v = v) := by
  have hcatalog : (Format.json.catalog .standard (some (.text shareText)) [] none).toOption.join.any
      (fun _ => true) = true := by decide +kernel
  have htree : (Format.json.tree .standard (some (.text shareText))).toOption.join.any
      (fun tree => decide (tree.flatten.map Prod.fst = [("share.path" : Text), "share.title"])) = true := by decide +kernel
  obtain ⟨c, hc, -⟩ := exists_of_any hcatalog
  obtain ⟨tree, ht, hkeys⟩ := exists_of_any htree
  obtain ⟨t, members, hdecode, hmembers, -, -, hviews⟩ := Format.json_views rfl hc ht
  rw [decodeNonempty_text (by decide) (by decide)] at hdecode
  obtain rfl := Option.some.inj (Except.ok.inj hdecode)
  have htexts : (Objects.members shareText).toOption.map (Nested.textsIn [])
      = some [⟨"share", "path", ⟨"C:\\new", none⟩⟩, ⟨"share", "title", ⟨"Main", none⟩⟩] := by decide +kernel
  rw [hmembers] at htexts
  have htexts : Nested.textsIn [] members = _ := Option.some.inj htexts
  rw [htexts] at hviews
  have hpaths : ∀ i ∈ [(⟨"share", "path", ⟨"C:\\new", none⟩⟩ : Item), ⟨"share", "title", ⟨"Main", none⟩⟩],
      tidied i.group = i.group := by decide +kernel
  exact ⟨rfl, c, tree, hc, ht, of_decide_eq_true hkeys, hviews (by decide +kernel) hpaths⟩

/-- A text with a backslash before a letter. -/
def driveText : Text := "\x7b\"p\": \"C:\\\\new\"\x7d"

/-- Its leaf. -/
def driveLeaf : Leaf := ⟨"p", some "C:\\new", none, false⟩

/-- **The text of an entry is decoded once more than that of its leaf**: the backslash and the letter become a line
break. -/
theorem json_views_differ :
    ∃ c tree e, Format.json.catalog .standard (some (.text driveText)) [] none = .ok (some c) ∧
      Format.json.tree .standard (some (.text driveText)) = .ok (some tree) ∧
      tree.flatten = [(driveLeaf.key, driveLeaf)] ∧ c.get? "p" = some e ∧
      e.text = some "C:\new" := by
  have hcatalog : (Format.json.catalog .standard (some (.text driveText)) [] none).toOption.join.any
      (fun c => decide ((c.get? "p").map Entry.text = some (some ("C:\new" : Text)))) = true := by decide +kernel
  have htree : (Format.json.tree .standard (some (.text driveText))).toOption.join.any
      (fun tree => decide (tree.flatten = [(driveLeaf.key, driveLeaf)])) = true := by decide +kernel
  obtain ⟨c, hc, hentry⟩ := exists_of_any hcatalog
  obtain ⟨tree, ht, hleaf⟩ := exists_of_any htree
  obtain ⟨e, he, htext⟩ := Option.map_eq_some_iff.mp (of_decide_eq_true hentry)
  exact ⟨c, tree, e, hc, ht, of_decide_eq_true hleaf, he, htext⟩

end Phrasebook.Files
