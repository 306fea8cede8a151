import Phrasebook.Files.Format
import Phrasebook.Proofs.Files.Documents

/-!
# Catalogs and trees of key lines

A file of key lines is read as a catalog, in which keys are dotted names, and as a tree, in which they are nested.
Where the keys are names both come of the same items, each with a key of its own: the catalog has one entry for each
item (`foldlM_addItem`) and the tree lists one leaf for each (`foldlM_addLeaf`), so neither can fail. Since dotted
names and places in the tree say the same of an item (`dotted_address`), the views agree (`views_agree`).
-/

namespace Phrasebook

/-- The text that is seen of an entry, how it is stored, and whether there are placeholders in it. -/
def Entry.seen (e : Entry) : Option Text × Option Text × Bool := (e.text, e.escapedText, e.hasPlaceholders)

/-- What is seen of a leaf, likewise. -/
def Leaf.seen (l : Leaf) : Option Text × Option Text × Bool := (l.value, l.escapedValue, l.hasPlaceholders)

/-- **A catalog and a tree agree** if the tree lists each entry of the catalog once and nothing else, letter case of
keys aside, and finds it under its key. -/
structure Catalog.Agrees (t : Catalog) (tree : Tree) : Prop where
  once : t.keys.Nodup
  listed : (tree.flatten.map fun (key, l) => (key.fold, l.seen)).Perm (t.entries.map fun (k, e) => (k, e.seen))
  found : ∀ k e, (k, e) ∈ t.entries → k = e.key.fold ∧ ∃ l, tree.leaf? e.key = some l ∧ l.seen = e.seen

/-- An entry under a new key comes last. -/
theorem Catalog.add_new {c : Catalog} {key : Text} (h : key.fold ∉ c.keys) (e : Entry) :
    c.add key e = { c with entries := c.entries ++ [(key.fold, e)] } := by
  show { c with entries := Pairs.put key.fold e c.entries } = _
  rw [Pairs.put_of_not_mem h]

/-- The keys that were seen are those of the entries, with one more of each. -/
theorem Catalog.keys_add_seen {c : Catalog} {seen : List Text} (h : ∀ k ∈ c.keys, k ∈ seen) (key : Text) (e : Entry) :
    ∀ k ∈ (c.add key e).keys, k ∈ key.fold :: seen := by
  intro k hk
  rcases Pairs.mem_keys_put.mp hk with rfl | hk
  · exact List.mem_cons_self
  · exact List.mem_cons_of_mem _ (h k hk)

namespace Files

open Phrasebook.Group (listed segments)

variable {o : Options} {mode : Mode} {d : Dialect} {i : Item} {items : List Item} {doc : Document}
  {t : Text}

/-- The catalog of content that has a text. -/
theorem Format.catalog_of_text {f : Format} {o : Options} {content : Option Content} {locale t : Text}
    {given : Option Mode} (ht : decodeNonempty content = .ok (some t)) :
    f.catalog o content locale given = f.catalogOfText o locale (given.getD f.defaultMode) t := by
  unfold Format.catalog
  rw [ht]
  rfl

theorem filter_some_text (t : Text) : (some t).filter (fun t => !t.isEmpty) = if t = [] then none else some t := by
  cases t <;> rfl

/-! ## Items -/

namespace Item

/-- The entry of an item in which no placeholders are looked for. -/
def entry (mode : Mode) (i : Item) : Entry :=
  { Entry.ofKey i.fullKey with
    text := some (i.value.texts mode).1
    escapedText := (i.value.texts mode).2 }

/-- The leaf of an item in which no placeholders are looked for. -/
def leaf (mode : Mode) (i : Item) : Leaf where
  key := i.key
  value := some (i.value.texts mode).1
  escapedValue := (i.value.texts mode).2
  hasPlaceholders := false

/-- The place of an item in a tree. -/
def address (i : Item) : Address := Address.ofPath (segments i.group) i.key

end Item

/-- The dotted name of the place of an item is its key in a catalog. -/
theorem dotted_address (h : Group.IsPath i.group) : i.address.dotted = i.fullKey.fold :=
  Address.dotted_ofPath h i.key

theorem keepsEscapedText_of_texts {w : Written} (hsuits : w.Suits mode) {stored : Text}
    (h : (w.texts mode).2 = some stored) : mode.keepsEscapedText = true := by
  unfold Written.texts at h
  split at h
  · next hdecoded => exact hsuits (by rw [hdecoded]; rfl)
  · unfold splitEscapes at h
    split at h
    · next hkeeps => exact hkeeps
    · cases h

/-! ## What becomes of items -/

theorem containsPlaceholders_plain (hmode : mode.parsesPlaceholders = false) (text : Text) :
    Template.containsPlaceholders mode text = .ok false := by
  unfold Template.containsPlaceholders Template.hasPlaceholders
  rw [if_neg (by rw [hmode]; exact Bool.false_ne_true)]
  rfl

/-- What is done with items where values name no files and hold no placeholders. -/
structure Plain (o : Options) (mode : Mode) : Prop where
  off : o.recognizeReferences = false
  plain : mode.parsesPlaceholders = false

section Plain

variable (h : Plain o mode)
include h

theorem Plain.isReference (text : Text) : isReference o.recognizeReferences text = false := by
  rw [Files.isReference, h.off, Bool.false_and]

/-- The entry that is made for an item. -/
theorem Plain.makeEntry (hsuits : i.value.Suits mode) :
    makeEntry o mode i.fullKey (some (i.value.texts mode).1) (i.value.texts mode).2 = .ok (i.entry mode) := by
  have hkept : (if mode.keepsEscapedText then (i.value.texts mode).2 else none) = (i.value.texts mode).2 := by
    cases htexts : (i.value.texts mode).2 with
    | none => exact ite_self none
    | some stored => rw [if_pos (keepsEscapedText_of_texts hsuits htexts)]
  have hplain : (some (i.value.texts mode).1).filter (Files.isReference o.recognizeReferences) = none := by
    rw [Option.filter_some, h.isReference]
    rfl
  -- There is no reference, so the flag is that of the stored text, or of the text itself if none is stored.
  unfold Files.makeEntry
  rw [hplain]
  dsimp only
  rw [hkept]
  unfold Item.entry
  cases (i.value.texts mode).2 with
  | none =>
      rw [Option.none_or]
      dsimp only
      rw [containsPlaceholders_plain h.plain]
      rfl
  | some stored =>
      rw [Option.some_or]
      dsimp only
      rw [containsPlaceholders_plain h.plain]
      rfl

/-- The entry of a value that is not stored in another form. -/
theorem Plain.makeEntry_text (key : Text) (text : Option Text) :
    Files.makeEntry o mode key text none = .ok { Entry.ofKey key with text := text } := by
  have hplain : text.filter (Files.isReference o.recognizeReferences) = none := by
    cases text with
    | none => rfl
    | some t =>
        rw [Option.filter_some, h.isReference]
        rfl
  unfold Files.makeEntry
  rw [hplain]
  dsimp only
  rw [ite_self, Option.none_or]
  cases text with
  | none => rfl
  | some t =>
      dsimp only
      rw [containsPlaceholders_plain h.plain]
      rfl

theorem Plain.leafFlag (text : Text) : leafFlag o mode (some text) = .ok false := by
  unfold Files.leafFlag
  dsimp only
  rw [h.isReference, if_neg Bool.false_ne_true, containsPlaceholders_plain h.plain]

namespace Dialect

/-- **The entries of a catalog are those of the items**, in order, if no key comes twice. -/
theorem foldlM_addItem {c : Catalog} (hsuits : ∀ i ∈ items, i.value.Suits mode)
    (honce : (c.keys ++ items.map fun i => i.fullKey.fold).Nodup) :
    items.foldlM (addItem o mode) c
      = .ok { c with entries := c.entries ++ items.map fun i => (i.fullKey.fold, i.entry mode) } := by
  induction items generalizing c with
  | nil =>
      rw [List.map_nil, List.append_nil]
      rfl
  | cons i rest ih =>
      have hnew : i.fullKey.fold ∉ c.keys := by
        intro hmem
        exact (List.nodup_append.mp honce).2.2 _ hmem _ List.mem_cons_self rfl
      have hadd : addItem o mode c i = .ok (c.add i.fullKey (i.entry mode)) := by
        unfold addItem
        dsimp only
        rw [h.makeEntry (hsuits i List.mem_cons_self)]
        rfl
      have hadded := Catalog.add_new hnew (i.entry mode)
      have hkeys : (c.add i.fullKey (i.entry mode)).keys = c.keys ++ [i.fullKey.fold] := by
        rw [hadded]
        exact List.map_append
      rw [List.foldlM_cons, hadd]
      show rest.foldlM (addItem o mode) (c.add i.fullKey (i.entry mode)) = _
      rw [ih (fun j hj => hsuits j (List.mem_cons_of_mem i hj))]
      · rw [hadded, List.append_assoc]
        rfl
      · rw [hkeys, List.append_assoc]
        exact honce

/-- **The leaves of a tree are those of the items**, if no place comes twice. -/
theorem foldlM_addLeaf {tree : Tree} (hsound : tree.root.IsSound)
    (honce : (tree.root.addresses ++ items.map Item.address).Nodup) :
    ∃ tree', items.foldlM (addLeaf o mode) tree = .ok tree'
      ∧ tree.root.Gains (items.map fun i => (i.address, i.leaf mode)) tree'.root := by
  induction items generalizing tree with
  | nil => exact ⟨tree, rfl, rfl, hsound, by rw [List.map_nil, List.append_nil]⟩
  | cons i rest ih =>
      have hnew : i.address ∉ tree.root.addresses := by
        intro hmem
        exact (List.nodup_append.mp honce).2.2 _ hmem _ List.mem_cons_self rfl
      obtain ⟨tree₁, hadd, hgains⟩ := tree.addLeaf_gains hsound i.group (i.leaf mode) hnew
      have hstep : addLeaf o mode tree i = .ok tree₁ := by
        unfold addLeaf
        dsimp only
        rw [h.leafFlag]
        exact hadd
      have haddresses : tree₁.root.addresses.Perm (tree.root.addresses ++ [i.address]) := by
        have hmapped := hgains.listed.map Prod.fst
        rw [List.map_append] at hmapped
        exact hmapped
      obtain ⟨tree₂, hrest, hgains'⟩ := ih hgains.sound (by
        rw [(haddresses.append_right _).nodup_iff, List.append_assoc]
        exact honce)
      refine ⟨tree₂, ?_, hgains.trans hgains'⟩
      rw [List.foldlM_cons, hstep]
      exact hrest

omit h in
/-- Making the groups of all sections adds no leaves. -/
theorem foldlM_makeGroup {tree : Tree} (hsound : tree.root.IsSound) (sections : List Text) :
    ∃ tree', sections.foldlM Tree.makeGroup tree = .ok tree' ∧ tree.root.Gains [] tree'.root := by
  induction sections generalizing tree with
  | nil => exact ⟨tree, rfl, rfl, hsound, by rw [List.append_nil]⟩
  | cons name rest ih =>
      obtain ⟨tree₁, hmake, hgains⟩ := tree.makeGroup_gains hsound name
      obtain ⟨tree₂, hrest, hgains'⟩ := ih hgains.sound
      refine ⟨tree₂, ?_, hgains.trans hgains'⟩
      rw [List.foldlM_cons, hmake]
      exact hrest

end Dialect

end Plain

/-! ## Keys of items -/

/-- **No two items have the same dotted key**, letter case aside. -/
theorem Document.IsRegular.nodup_fullKey (h : doc.IsRegular mode) :
    (doc.items.map fun i => i.fullKey.fold).Nodup :=
  (h.once.of_map Item.identity).map_on fun i hi j hj heq =>
    List.inj_on_of_nodup_map h.once hi hj (Tree.fold_join_inj (h.key i hi) (h.key j hj) heq)

theorem Document.IsRegular.map_dotted (h : doc.IsRegular mode) :
    (doc.items.map Item.address).map Address.dotted = doc.items.map fun i => i.fullKey.fold := by
  rw [List.map_map]
  exact List.map_congr_left fun i hi => dotted_address (h.group i hi)

/-- No two items have the same place in a tree. -/
theorem Document.IsRegular.nodup_address (h : doc.IsRegular mode) : (doc.items.map Item.address).Nodup := by
  apply List.Nodup.of_map Address.dotted
  rw [h.map_dotted]
  exact h.nodup_fullKey

/-! ## Both views -/

/-- The leaves of a tree that lists those of the items are flattened to them. -/
theorem Document.IsRegular.flatten_perm (hdoc : doc.IsRegular mode) {tree : Tree} (hsound : tree.root.IsSound)
    (hlisted : (listed tree.root).Perm (doc.items.map fun i => (i.address, i.leaf mode))) :
    (tree.flatten.map Tree.folded).Perm (doc.items.map fun i => (i.fullKey.fold, i.leaf mode)) := by
  have hdotted : (doc.items.map fun i => (i.address, i.leaf mode)).map (fun e => (e.1.dotted, e.2))
      = doc.items.map fun i => (i.fullKey.fold, i.leaf mode) := by
    rw [List.map_map]
    refine List.map_congr_left fun i hi => ?_
    show (i.address.dotted, i.leaf mode) = _
    rw [dotted_address (hdoc.group i hi)]
  rw [← hdotted]
  exact (Tree.flatten_perm hsound).trans (hlisted.map _)

/-- **Both views of a regular document come through, and agree.** -/
theorem Document.IsRegular.views_agree (hdoc : doc.IsRegular mode) (h : Plain o mode)
    (hread : d.readDocument t = .ok doc) :
    ∃ c tree, d.catalog o mode t = .ok c ∧ d.tree o mode t = .ok tree ∧ c.Agrees tree := by
  have hdocument : d.document t = .ok doc := by
    rw [Dialect.document, hread]
    rfl
  -- The flat view: one entry for each item.
  obtain ⟨c, hc, hentries⟩ : ∃ c, doc.items.foldlM (Dialect.addItem o mode) (Catalog.ofLocale none) = .ok c
      ∧ c.entries = doc.items.map fun i => (i.fullKey.fold, i.entry mode) :=
    ⟨_, Dialect.foldlM_addItem h hdoc.value hdoc.nodup_fullKey, rfl⟩
  -- The nested view: one leaf for each item, in a place of its own.
  obtain ⟨grouped, hgrouped, hgroups⟩ := Dialect.foldlM_makeGroup Tree.isSound_empty doc.sections
  have hnone : grouped.root.addresses = [] := by
    have hempty : listed grouped.root = [] := hgroups.listed.eq_nil
    rw [Group.addresses, hempty]
    rfl
  have honce : (grouped.root.addresses ++ doc.items.map Item.address).Nodup := by
    rw [hnone]
    exact hdoc.nodup_address
  obtain ⟨tree, htree, hleaves⟩ := Dialect.foldlM_addLeaf h hgroups.sound honce
  have hlisted : (listed tree.root).Perm (doc.items.map fun i => (i.address, i.leaf mode)) :=
    (hgroups.trans hleaves).listed
  refine ⟨c, tree, ?_, ?_, ?_, ?_, ?_⟩
  · rw [Dialect.catalog, hdocument]
    exact hc
  · rw [Dialect.tree, hdocument]
    show (doc.sections.foldlM Tree.makeGroup Tree.empty >>= doc.items.foldlM (Dialect.addLeaf o mode)) = _
    rw [hgrouped]
    exact htree
  · have hkeys : c.keys = doc.items.map fun i => i.fullKey.fold := by
      rw [Catalog.keys, hentries, Pairs.keys, List.map_map]
      rfl
    rw [hkeys]
    exact hdoc.nodup_fullKey
  · have hseen := (hdoc.flatten_perm hleaves.sound hlisted).map fun e => (e.1, e.2.seen)
    rw [List.map_map, List.map_map] at hseen
    rw [hentries, List.map_map]
    exact hseen
  · intro k e he
    rw [hentries] at he
    obtain ⟨i, hi, hpair⟩ := List.mem_map.mp he
    obtain ⟨rfl, rfl⟩ := Prod.mk.inj hpair
    have hmem : (i.address, i.leaf mode) ∈ listed tree.root :=
      hlisted.mem_iff.mpr (List.mem_map_of_mem hi)
    exact ⟨rfl, i.leaf mode, (Tree.leaf?_join hleaves.sound i.group (hdoc.key i hi) _).mpr hmem, rfl⟩

/-- The rules of a format of key lines, in which no key is quoted. -/
def Format.keyDialect? : Format → Option Dialect
  | .ini => some Ini.dialect
  | .toml => some Toml.bareDialect
  | _ => none

theorem Format.isRegular_keyDialect {f : Format} (hf : f.keyDialect? = some d) : d.IsRegular f.defaultMode := by
  cases f with
  | ini =>
      obtain rfl := Option.some.inj hf
      exact Ini.isRegular_dialect
  | toml =>
      obtain rfl := Option.some.inj hf
      exact Toml.isRegular_bareDialect
  | json | arb | csv | tsv | resx => cases hf

/-- **The flat view and the nested view of a file of key lines agree.** Every text that is read as a document without
quoted keys has both a catalog and a tree. -/
theorem Format.catalog_agrees_tree (ho : o.recognizeReferences = false) {f : Format}
    (hf : f.keyDialect? = some d) (hne : t ≠ []) (hread : d.readDocument t = .ok doc) (locale : Text) :
    ∃ c tree, f.catalog o (some (.text t)) locale none = .ok (some c)
      ∧ f.tree o (some (.text t)) = .ok (some tree) ∧ c.Agrees tree := by
  have hd := Format.isRegular_keyDialect hf
  have hdoc := Dialect.readDocument_isRegular hd hread
  have hdecode := decodeNonempty_text hne (Dialect.not_mark_of_readDocument hd hread)
  obtain ⟨c, tree, hc, htree, hagrees⟩ : ∃ c tree, f.catalogOfText o locale f.defaultMode t = .ok (some c)
      ∧ f.treeOfText o t = .ok (some tree) ∧ c.Agrees tree := by
    cases f with
    | ini =>
        obtain rfl := Option.some.inj hf
        obtain ⟨c, tree, hc, htree, hagrees⟩ := hdoc.views_agree ⟨ho, rfl⟩ hread
        exact ⟨c, tree, congrArg (Except.map some) hc, congrArg (Except.map some) htree, hagrees⟩
    | toml =>
        obtain rfl := Option.some.inj hf
        obtain ⟨c, tree, hc, htree, hagrees⟩ := hdoc.views_agree ⟨ho, rfl⟩ (Toml.readDocument_of_bare hread)
        exact ⟨c, tree, congrArg (Except.map some) hc, congrArg (Except.map some) htree, hagrees⟩
    | json | arb | csv | tsv | resx => cases hf
  refine ⟨c, tree, ?_, ?_, hagrees⟩
  · rw [Format.catalog, hdecode]
    exact hc
  · rw [Format.tree, hdecode]
    exact htree

/-- A toml file in which a group is written in several ways. -/
def menuText : Text :=
  "top = 'T' # \"\n[Menu.File]\nopen = \"O\\u0070\"\n[menu]\nFILE . close = '''C'''\n"

/-- What it says. -/
def menuDocument : Document where
  items := [⟨"", "top", "T", some "T"⟩, ⟨"Menu.File", "open", "O\\u0070", some "Op"⟩,
    ⟨"menu.FILE", "close", "C", some "C"⟩]
  sections := ["Menu.File", "menu"]

theorem catalog_agrees_tree_menu :
    Options.standard.recognizeReferences = false ∧ Format.toml.keyDialect? = some Toml.bareDialect
      ∧ menuText ≠ [] ∧ Toml.bareDialect.readDocument menuText = .ok menuDocument
      ∧ ∃ c tree, Format.toml.catalog .standard (some (.text menuText)) "en" none = .ok (some c)
        ∧ Format.toml.tree .standard (some (.text menuText)) = .ok (some tree) ∧ c.Agrees tree := by
  have hread : Toml.bareDialect.readDocument menuText = .ok menuDocument := by decide +kernel
  have hne : menuText ≠ [] := by decide
  exact ⟨rfl, rfl, hne, hread, Format.catalog_agrees_tree rfl rfl hne hread "en"⟩

end Files

end Phrasebook
