import Mathlib.Data.List.Dedup
import Phrasebook.Proofs.Files.Built
import Phrasebook.Proofs.Files.Documents
import Phrasebook.Proofs.Tree.Places

/-!
# How many entries a catalog has

A catalog stores entries under folded dotted keys, and an entry under a key that is taken takes the place of the
earlier one. So it has as many entries as there are different folded keys (`Catalog.Holds.tallies`), and fewer than
were written as soon as two of these are the same.

Plain JSON files and toml files look for keys that come twice in other terms: the former compare the names within one
object as they are written, the latter the group and the key apart. Nested objects lose entries exactly where two
texts have the same dotted key (`Format.json_catalog_tallies`); if all names are single segments these are the texts
with the same names on the way to them. Toml files lose entries only where a key that was quoted has a full stop in it
(`Format.toml_catalog_tallies`).
-/

namespace Phrasebook

/-! ## What a catalog holds -/

/-- **`c.Holds keys`**: there is one entry under each of some keys, folded, and there are no others. -/
structure Catalog.Holds (c : Catalog) (keys : List Text) : Prop where
  once : c.keys.Nodup
  mem : ∀ k, k ∈ c.keys ↔ k ∈ keys.map Text.fold

/-- **`c.Tallies keys`**: there are as many entries as there are different folded keys, hence as many as keys
exactly if no two of them are folded to the same. -/
structure Catalog.Tallies (c : Catalog) (keys : List Text) : Prop where
  size : c.size = (keys.map Text.fold).dedup.length
  complete : c.size = keys.length ↔ (keys.map Text.fold).Nodup

namespace Catalog

variable {c : Catalog} {keys : List Text}

theorem holds_empty (locale : Option Text) : (ofLocale locale).Holds [] where
  once := List.nodup_nil
  mem _ := Iff.rfl

theorem Holds.add (h : c.Holds keys) (key : Text) (e : Entry) : (c.add key e).Holds (keys ++ [key]) where
  once := Pairs.nodup_put h.once key.fold e
  mem k := by
    have hput : k ∈ (c.add key e).keys ↔ k = key.fold ∨ k ∈ c.keys := Pairs.mem_keys_put
    rw [hput, h.mem, List.map_append, List.mem_append, List.map_singleton, List.mem_singleton]
    exact or_comm

/-- **The entries of a catalog are as many as the different keys.** -/
theorem Holds.tallies (h : c.Holds keys) : c.Tallies keys := by
  have hperm : c.keys.Perm (keys.map Text.fold).dedup :=
    (List.perm_ext_iff_of_nodup h.once (List.nodup_dedup _)).mpr fun k => by rw [h.mem, List.mem_dedup]
  have hsize : c.size = (keys.map Text.fold).dedup.length := by
    rw [← hperm.length_eq, Catalog.keys, Pairs.keys, List.length_map]
    rfl
  have hlength : (keys.map Text.fold).length = keys.length := List.length_map Text.fold
  refine ⟨hsize, ?_⟩
  rw [hsize, ← hlength, ← List.dedup_eq_self]
  exact ⟨(List.dedup_sublist _).eq_of_length, congrArg List.length⟩

end Catalog

namespace Files

open Phrasebook.Group (dot IsName)

variable {o : Options} {mode : Mode} {c c' : Catalog} {keys : List Text}

/-! ## Nested objects -/

namespace Nested

mutual

/-- The ways to the texts in a value, at all depths: the names of the members on each, without outer blanks. -/
def textPaths : Json → List (List Text)
  | .text _ => [[]]
  | .object members => textPathsIn members
  | _ => []

/-- The ways to the texts in the members of an object. -/
def textPathsIn : List (Text × Json) → List (List Text)
  | [] => []
  | (name, v) :: rest => (textPaths v).map (name.strip :: ·) ++ textPathsIn rest

end

/-- The dotted key of a text: the names on the way to it. -/
def dottedKey (path : List Text) : Text := path.foldl Tree.join []

mutual

/-- A member adds the texts in it, each under its dotted key. -/
theorem addMember_holds {c c' : Catalog} {keys : List Text} {key : Text} (hc : c.Holds keys) (v : Json)
    (h : addMember o mode key c v = .ok c') : c'.Holds (keys ++ (textPaths v).map (·.foldl Tree.join key)) := by
  cases v with
  | text value =>
      obtain ⟨e, -, hok⟩ := exists_of_bind h
      obtain rfl := Except.ok.inj hok
      rw [textPaths]
      exact hc.add key e
  | object members =>
      rw [addMember] at h
      rw [textPaths]
      exact addMembers_holds hc members h
  | null | bool | int | double | array =>
      -- Values of other kinds are refused.
      simp [addMember] at h

/-- The members of an object add the texts in them. -/
theorem addMembers_holds {c c' : Catalog} {keys : List Text} {group : Text} (hc : c.Holds keys)
    (members : List (Text × Json)) (h : addMembers o mode group c members = .ok c') :
    c'.Holds (keys ++ (textPathsIn members).map (·.foldl Tree.join group)) := by
  cases members with
  | nil =>
      rw [addMembers] at h
      obtain rfl := Except.ok.inj h
      rw [textPathsIn, List.map_nil, List.append_nil]
      exact hc
  | cons member rest =>
      obtain ⟨name, v⟩ := member
      rw [addMembers] at h
      obtain ⟨c₁, hmember, hrest⟩ := exists_of_bind h
      have hadded := addMembers_holds (addMember_holds hc v hmember) rest hrest
      rw [textPathsIn, List.map_append, List.map_map, ← List.append_assoc]
      exact hadded

end

theorem addMembers_ofLocale_holds {members : List (Text × Json)}
    (h : addMembers o mode [] (.ofLocale none) members = .ok c) : c.Holds ((textPathsIn members).map dottedKey) :=
  addMembers_holds (Catalog.holds_empty none) members h

theorem dottedKey_concat (names : List Text) (s : Text) : dottedKey (names ++ [s]) = Tree.join (dottedKey names) s := by
  rw [dottedKey, List.foldl_concat, dottedKey]

/-- Names that are single segments are the segments of their dotted key. -/
theorem segments_dottedKey {path : List Text} (h : ∀ s ∈ path, IsName s) : Group.segments (dottedKey path) = path := by
  induction path using List.reverseRecOn with
  | nil => rfl
  | append_singleton names s ih =>
      have hs : Group.segments s = [s] := Group.segments_join fun t ht =>
        h t (List.mem_append_right names ht)
      rw [dottedKey_concat, Group.segments_joined, ih fun t ht => h t (List.mem_append_left _ ht), hs]

theorem fold_dottedKey (path : List Text) : (dottedKey path).fold = dottedKey (path.map Text.fold) := by
  induction path using List.reverseRecOn with
  | nil => rfl
  | append_singleton names s ih =>
      rw [dottedKey_concat, Tree.fold_join, ih, List.map_append, List.map_singleton, dottedKey_concat]

/-- **Where all names are single segments**, two texts have the same dotted key only if they have the same names on
the way to them, letter case aside. -/
theorem map_fold_of_dottedKey {p q : List Text} (hp : ∀ s ∈ p, IsName s) (hq : ∀ s ∈ q, IsName s)
    (h : (dottedKey p).fold = (dottedKey q).fold) : p.map Text.fold = q.map Text.fold := by
  have hsegments := congrArg Group.segments h
  rw [Group.segments_fold, Group.segments_fold, segments_dottedKey hp, segments_dottedKey hq] at hsegments
  exact hsegments

theorem nodup_dottedKey_iff {paths : List (List Text)} (h : ∀ p ∈ paths, ∀ s ∈ p, IsName s) :
    ((paths.map dottedKey).map Text.fold).Nodup ↔ (paths.map (List.map Text.fold)).Nodup := by
  have hfolded : (paths.map dottedKey).map Text.fold = (paths.map (List.map Text.fold)).map dottedKey := by
    rw [List.map_map, List.map_map]
    exact List.map_congr_left fun p _ => fold_dottedKey p
  rw [hfolded]
  refine ⟨List.Nodup.of_map dottedKey, fun hnodup => hnodup.map_on fun x hx y hy heq => ?_⟩
  obtain ⟨p, hp, rfl⟩ := List.mem_map.mp hx
  obtain ⟨q, hq, rfl⟩ := List.mem_map.mp hy
  rw [← fold_dottedKey, ← fold_dottedKey] at heq
  exact map_fold_of_dottedKey (h p hp) (h q hq) heq

end Nested

/-- **The entries of a plain JSON file.** There are as many as there are different folded dotted keys of texts at all
depths, so all texts are kept exactly if no two of them have the same dotted key, letter case aside. If every name on
the way to a text is a single segment, that is to say that no two of them have the same names on the way to them. -/
theorem Format.json_catalog_tallies {content : Option Content} {locale : Text} {given : Option Mode}
    (h : Format.json.catalog o content locale given = .ok (some c)) :
    ∃ t members, decodeNonempty content = .ok (some t) ∧ Objects.members t = .ok members
      ∧ c.Tallies ((Nested.textPathsIn members).map Nested.dottedKey)
      ∧ ((∀ p ∈ Nested.textPathsIn members, ∀ s ∈ p, IsName s) →
        (c.size = (Nested.textPathsIn members).length
          ↔ ((Nested.textPathsIn members).map (List.map Text.fold)).Nodup)) := by
  obtain ⟨t, ht, hcatalog⟩ := Format.exists_of_catalog h
  obtain ⟨members, hmembers, hadd⟩ := exists_of_bind (Format.eq_of_map_some hcatalog)
  have htallies := (Nested.addMembers_ofLocale_holds hadd).tallies
  refine ⟨t, members, ht, hmembers, htallies, fun hnames => ?_⟩
  rw [← Nested.nodup_dottedKey_iff hnames, ← htallies.complete, List.length_map]

/-- Texts at two depths. -/
def nestedText : Text := "\x7b\"title\": \"Main\", \"logs\": \x7b\"started\": \"Started\"\x7d\x7d"

theorem json_catalog_tallies_nested :
    ∃ c, Format.json.catalog .standard (some (.text nestedText)) [] none = .ok (some c) ∧ c.size = 2 := by
  have hread : (Format.json.catalog .standard (some (.text nestedText)) [] none).toOption.join.any
      (fun _ => true) = true := by decide +kernel
  obtain ⟨c, hc, -⟩ := exists_of_any hread
  obtain ⟨t, members, ht, hmembers, htallies, -⟩ := Format.json_catalog_tallies hc
  rw [decodeNonempty_text (by decide) (by decide)] at ht
  obtain rfl := Option.some.inj (Except.ok.inj ht)
  have hpaths : (Objects.members nestedText).toOption.map Nested.textPathsIn
      = some [[("title" : Text)], [("logs" : Text), "started"]] := by decide +kernel
  rw [hmembers] at hpaths
  have hpaths := Option.some.inj hpaths
  refine ⟨c, hc, ?_⟩
  rw [htallies.size, hpaths]
  decide +kernel

/-- Two texts whose names differ in letter case. -/
def casesText : Text := "\x7b\"a\": \"1\", \"A\": \"2\"\x7d"

/-- One of the two texts is lost. -/
theorem json_catalog_loses_text :
    ∃ c members, Format.json.catalog .standard (some (.text casesText)) [] none = .ok (some c)
      ∧ Objects.members casesText = .ok members
      ∧ (Nested.textPathsIn members).length = 2 ∧ c.size = 1 := by
  have hread : (Format.json.catalog .standard (some (.text casesText)) [] none).toOption.join.any
      (fun c => decide (c.size = 1)) = true := by decide +kernel
  have hmembers : (Objects.members casesText).toOption.map (fun members => (Nested.textPathsIn members).length)
      = some 2 := by decide +kernel
  obtain ⟨c, hc, hsize⟩ := exists_of_any hread
  obtain ⟨members, hok, hlength⟩ := Option.map_eq_some_iff.mp hmembers
  exact ⟨c, members, hc, ok_of_toOption hok, hlength, of_decide_eq_true hsize⟩

/-! ## Key lines -/

namespace Dialect

variable {d : Dialect} {items : List Item} {t : Text}

/-- Every item adds one entry under its dotted key. -/
theorem foldlM_addItem_holds (hc : c.Holds keys) (h : items.foldlM (addItem o mode) c = .ok c') :
    c'.Holds (keys ++ items.map Item.fullKey) := by
  induction items generalizing c keys with
  | nil =>
      obtain rfl := Except.ok.inj h
      rw [List.map_nil, List.append_nil]
      exact hc
  | cons i rest ih =>
      rw [List.foldlM_cons] at h
      obtain ⟨c₁, hadd, hrest⟩ := exists_of_bind h
      obtain ⟨e, -, hok⟩ := exists_of_bind hadd
      obtain rfl := Except.ok.inj hok
      rw [List.map_cons, List.append_cons]
      exact ih (hc.add i.fullKey e) hrest

/-- **The entries of a file of key lines.** There are as many as there are different folded dotted keys of items, and
items have the same one only if a full stop stands in one of their own keys. -/
theorem catalog_tallies (h : d.catalog o mode t = .ok c) :
    ∃ doc, d.readDocument t = .ok doc ∧ c.Tallies (doc.items.map Item.fullKey)
      ∧ doc.items.Pairwise fun i j => i.fullKey.fold = j.fullKey.fold → dot ∈ i.key ∨ dot ∈ j.key := by
  obtain ⟨doc, hdocument, hitems⟩ := exists_of_bind h
  have hread := ok_of_mapError hdocument
  refine ⟨doc, hread, (foldlM_addItem_holds (Catalog.holds_empty none) hitems).tallies, ?_⟩
  refine (List.pairwise_map.mp (readDocument_once hread)).imp fun {i j} hapart hfull => ?_
  by_contra hnone
  obtain ⟨hi, hj⟩ := not_or.mp hnone
  exact hapart (Tree.fold_join_inj hi hj hfull)

end Dialect

/-- **The entries of a toml file.** There are as many as there are different folded dotted keys of items, and items have
the same one only if a full stop stands in one of their own keys, which takes quotes. -/
theorem Format.toml_catalog_tallies {content : Option Content} {locale : Text} {given : Option Mode}
    (h : Format.toml.catalog o content locale given = .ok (some c)) :
    ∃ t doc, decodeNonempty content = .ok (some t) ∧ Toml.dialect.readDocument t = .ok doc
      ∧ c.Tallies (doc.items.map Item.fullKey)
      ∧ doc.items.Pairwise fun i j => i.fullKey.fold = j.fullKey.fold → dot ∈ i.key ∨ dot ∈ j.key := by
  obtain ⟨t, ht, hcatalog⟩ := Format.exists_of_catalog h
  obtain ⟨doc, hread, htallies, hpairs⟩ := Dialect.catalog_tallies (Format.eq_of_map_some hcatalog)
  exact ⟨t, doc, ht, hread, htallies, hpairs⟩

/-- Keys with full stops between their segments, and one quoted key. -/
def dottedText : Text := "[s]\na.b = \"x\"\n\"a c\" = \"y\"\n"

theorem toml_catalog_tallies_dotted :
    ∃ c, Format.toml.catalog .standard (some (.text dottedText)) [] none = .ok (some c) ∧ c.size = 2 := by
  have hcatalog : (Format.toml.catalog .standard (some (.text dottedText)) [] none).toOption.join.any
      (fun _ => true) = true := by decide +kernel
  obtain ⟨c, hc, -⟩ := exists_of_any hcatalog
  obtain ⟨t, doc, ht, hdoc, htallies, -⟩ := Format.toml_catalog_tallies hc
  rw [decodeNonempty_text (by decide) (by decide)] at ht
  obtain rfl := Option.some.inj (Except.ok.inj ht)
  have hkeys : (Toml.dialect.readDocument dottedText).toOption.map (fun doc => doc.items.map Item.fullKey)
      = some [("s.a.b" : Text), "s.a c"] := by decide +kernel
  rw [hdoc] at hkeys
  have hkeys : doc.items.map Item.fullKey = _ := Option.some.inj hkeys
  refine ⟨c, hc, ?_⟩
  rw [htallies.size, hkeys]
  decide +kernel

/-- A key of two segments, and a quoted one with a full stop in it. -/
def quotedText : Text := "[s]\na.b = \"x\"\n\"a.b\" = \"y\"\n"

/-- One of the two items is lost. -/
theorem toml_catalog_loses_item :
    ∃ c doc, Format.toml.catalog .standard (some (.text quotedText)) [] none = .ok (some c)
      ∧ Toml.dialect.readDocument quotedText = .ok doc ∧ doc.items.length = 2 ∧ c.size = 1 := by
  have hcatalog : (Format.toml.catalog .standard (some (.text quotedText)) [] none).toOption.join.any
      (fun c => decide (c.size = 1)) = true := by decide +kernel
  have hread : (Toml.dialect.readDocument quotedText).toOption.map (fun doc => doc.items.length) = some 2 := by
    decide +kernel
  obtain ⟨c, hc, hsize⟩ := exists_of_any hcatalog
  obtain ⟨doc, hok, hlength⟩ := Option.map_eq_some_iff.mp hread
  exact ⟨c, doc, hc, ok_of_toOption hok, hlength, of_decide_eq_true hsize⟩

end Files

end Phrasebook
