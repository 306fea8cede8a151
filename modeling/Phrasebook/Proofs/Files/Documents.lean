import Mathlib.Data.List.Nodup
import Phrasebook.Files.Ini
import Phrasebook.Files.Toml
import Phrasebook.Proofs.Files.Lines
import Phrasebook.Proofs.Outcome
import Phrasebook.Proofs.Text.Cursor
import Phrasebook.Proofs.Tree

/-!
# What documents of key lines hold

Where the segments of keys are names, without full stops, a key is apart from its group in the dotted name of both:
groups are paths, and no two items have the same group and the same key (`IsRegular`). Every step of a reader keeps
this, a header (`readHeader_isPath`) as well as an item (`readItem_isRegular`), so every document that is read has
it (`readDocument_isRegular`). Whatever the segments are, no group and key come together twice (`readDocument_once`).

Ini files name their keys so, and so do toml files in which no key is quoted (`Toml.bareDialect`).
-/

namespace Phrasebook.Files

open Cursor (advance)
open Phrasebook.Group (dot IsName IsPath)

/-- A value that comes decoded leaves the raw text to a mode in which raw texts are kept. -/
def Written.Suits (mode : Mode) (w : Written) : Prop := w.decoded.isSome → mode.keepsEscapedText = true

/-- A document whose keys are apart from each other and from their groups. -/
structure Document.IsRegular (mode : Mode) (doc : Document) : Prop where
  group : ∀ i ∈ doc.items, IsPath i.group
  key : ∀ i ∈ doc.items, dot ∉ i.key
  value : ∀ i ∈ doc.items, i.value.Suits mode
  once : (doc.items.map Item.identity).Nodup

/-- The mark that a text may start with before it is decoded. -/
def byteOrderMark : CodePoint := ⟨0xFEFF, by decide⟩

/-- A text that does not start with a byte order mark is read as it is. -/
theorem decodeNonempty_text {t : Text} (hne : t ≠ []) (hmark : t.head? ≠ some byteOrderMark) :
    decodeNonempty (some (.text t)) = .ok (some t) := by
  cases t with
  | nil => exact absurd rfl hne
  | cons x rest =>
      have hx : ¬x.val = 0xFEFF := by
        intro hval
        have hsame : x = byteOrderMark := CodePoint.eq_of_val hval
        exact hmark (congrArg some hsame)
      have hdecode : Content.decode? (.text (x :: rest)) = some (x :: rest) := by
        show some (if x.val = 0xFEFF then rest else x :: rest) = _
        rw [if_neg hx]
      rw [decodeNonempty, decode, hdecode]
      rfl

/-- A dialect in which keys are made of names, and nothing starts with a byte order mark. -/
structure Dialect.IsRegular (mode : Mode) (d : Dialect) : Prop where
  readKey : ∀ {c segments c'}, d.readKey c = .ok (segments, c') → segments ≠ [] ∧ ∀ s ∈ segments, IsName s
  readKey_mark : ∀ {c r}, d.readKey c = .ok r → c.rest.head? ≠ some byteOrderMark
  comment : d.comment ≠ byteOrderMark
  readValue : ∀ {c w c'}, d.readValue c = .ok (w, c') → w.Suits mode

theorem isRegular_nil (mode : Mode) : Document.IsRegular mode ⟨[], []⟩ where
  group _ h := nomatch h
  key _ h := nomatch h
  value _ h := nomatch h
  once := List.nodup_nil

/-- A regular document stays so with a new item that is regular itself. -/
theorem Document.IsRegular.concat {mode : Mode} {doc : Document} (h : doc.IsRegular mode) {i : Item}
    (hgroup : IsPath i.group) (hkey : dot ∉ i.key) (hvalue : i.value.Suits mode)
    (hnew : i.identity ∉ doc.items.map Item.identity) :
    Document.IsRegular mode { doc with items := doc.items ++ [i] } where
  group j hj := by
    rcases List.mem_append.mp hj with hj | hj
    · exact h.group j hj
    · obtain rfl := List.mem_singleton.mp hj
      exact hgroup
  key j hj := by
    rcases List.mem_append.mp hj with hj | hj
    · exact h.key j hj
    · obtain rfl := List.mem_singleton.mp hj
      exact hkey
  value j hj := by
    rcases List.mem_append.mp hj with hj | hj
    · exact h.value j hj
    · obtain rfl := List.mem_singleton.mp hj
      exact hvalue
  once := by
    show ((doc.items ++ [i]).map Item.identity).Nodup
    rw [List.map_append, List.map_singleton, ← List.concat_eq_append]
    exact h.once.concat hnew

namespace Dialect

variable {mode : Mode} {d : Dialect} {sectionName name t : Text} {doc doc' : Document} {c c' : Cursor}

/-! ## Groups -/

/-- A dotted name goes on in the segments that follow it. -/
theorem join_join {names : List Text} (h : names ≠ []) (rest : List Text) :
    Text.join [dot] (Text.join [dot] names :: rest) = Text.join [dot] (names ++ rest) := by
  induction names with
  | nil => exact absurd rfl h
  | cons s names ih =>
      cases names with
      | nil => rfl
      | cons s' names =>
          have hih := ih (List.cons_ne_nil s' names)
          cases rest with
          | nil => rw [List.append_nil]; rfl
          | cons r rest =>
              show (s ++ [dot] ++ Text.join [dot] (s' :: names)) ++ [dot] ++ Text.join [dot] (r :: rest)
                = s ++ [dot] ++ Text.join [dot] (s' :: names ++ r :: rest)
              rw [← hih]
              show _ = s ++ [dot] ++ (Text.join [dot] (s' :: names) ++ [dot] ++ Text.join [dot] (r :: rest))
              simp only [List.append_assoc]

/-- The section and the first segments of a key make a path. -/
theorem isPath_groupOf (h : IsPath sectionName) {segments : List Text} (hnames : ∀ s ∈ segments, IsName s) :
    IsPath (groupOf sectionName segments) := by
  have hfirst : ∀ s ∈ segments.dropLast, IsName s := fun s hs => hnames s (List.dropLast_subset segments hs)
  have hkept : segments.dropLast.filter (fun s => !s.isEmpty) = segments.dropLast := by
    rw [List.filter_eq_self]
    intro s hs
    simpa using (hfirst s hs).1
  unfold groupOf
  rw [List.filter_cons, hkept]
  by_cases hsection : sectionName = []
  · rw [hsection]
    exact Group.isPath_join hfirst
  · have hne : Group.segments sectionName ≠ [] := by
      intro hnil
      rw [IsPath, hnil] at h
      exact hsection h.symm
    rw [if_pos (by simpa using hsection), ← h, join_join hne]
    refine Group.isPath_join fun s hs => ?_
    rcases List.mem_append.mp hs with hs | hs
    · exact Group.isName_of_mem_segments hs
    · exact hfirst s hs

/-- **The name of a section is a path.** -/
theorem isPath_readSection (h : readSection c = .ok (name, c')) : IsPath name := by
  unfold readSection at h
  dsimp only at h
  split at h
  · split at h
    · cases h
    · next hnone =>
      obtain ⟨rfl, -⟩ := Prod.mk.inj (Except.ok.inj h)
      refine Group.isPath_join fun s hs => ⟨?_, fun hdot => ?_⟩
      · rintro rfl
        exact hnone (List.any_eq_true.mpr ⟨[], hs, rfl⟩)
      · obtain ⟨part, hpart, rfl⟩ := List.mem_map.mp hs
        exact (Text.mem_of_mem_splitAll hpart (Text.mem_of_mem_strip hdot)).2 rfl
  · split at h <;> cases h

/-! ## Steps -/

/-- A header leaves the items as they are. -/
theorem readHeader_isPath (h : d.readHeader doc c = .ok ((name, doc'), c')) :
    IsPath name ∧ doc'.items = doc.items := by
  obtain ⟨⟨read, after⟩, hsection, hrest⟩ := exists_of_bind h
  dsimp only at hrest
  split at hrest
  · cases hrest
  · obtain ⟨c₁, -, hok⟩ := exists_of_bind hrest
    obtain ⟨hpair, -⟩ := Prod.mk.inj (Except.ok.inj hok)
    obtain ⟨rfl, rfl⟩ := Prod.mk.inj hpair
    exact ⟨isPath_readSection hsection, rfl⟩

/-- **An item that is read is new**, and made of a key and a value that are read. -/
theorem readItem_cases (h : d.readItem sectionName doc c = .ok (doc', c')) :
    ∃ segments value, (∃ c₁, d.readKey c = .ok (segments, c₁)) ∧ (∃ c₁ c₂, d.readValue c₁ = .ok (value, c₂))
      ∧ Item.identity ⟨groupOf sectionName segments, segments.getLastD [], value⟩ ∉ doc.items.map Item.identity
      ∧ doc' = { doc with
          items := doc.items ++ [⟨groupOf sectionName segments, segments.getLastD [], value⟩] } := by
  obtain ⟨⟨segments, c₁⟩, hkey, hrest⟩ := exists_of_bind h
  dsimp only at hrest
  split at hrest
  · cases hrest
  · split at hrest
    · cases hrest
    · split at hrest
      · cases hrest
      · next hnew =>
        obtain ⟨⟨value, c₂⟩, hvalue, hrest⟩ := exists_of_bind hrest
        obtain ⟨c₃, -, hok⟩ := exists_of_bind hrest
        obtain ⟨rfl, -⟩ := Prod.mk.inj (Except.ok.inj hok)
        exact ⟨segments, value, ⟨c₁, hkey⟩, ⟨_, c₂, hvalue⟩, hnew, rfl⟩

/-- A regular document stays so with an item that is read. -/
theorem readItem_isRegular (hd : d.IsRegular mode) (hsection : IsPath sectionName) (hdoc : doc.IsRegular mode)
    (h : d.readItem sectionName doc c = .ok (doc', c')) : doc'.IsRegular mode := by
  obtain ⟨segments, value, ⟨c₁, hkey⟩, ⟨c₂, c₃, hvalue⟩, hnew, rfl⟩ := readItem_cases h
  obtain ⟨hne, hnames⟩ := hd.readKey hkey
  -- The last segment is the key, and the others belong to the group.
  have hlast : segments.getLastD [] ∈ segments := by
    rw [List.getLastD_eq_getLast?, List.getLast?_eq_some_getLast hne]
    exact List.getLast_mem hne
  exact hdoc.concat (isPath_groupOf hsection hnames) (hnames _ hlast).2 (hd.readValue hvalue) hnew

section Lines

variable {P : Text → Document → Prop}
  (hheader : ∀ {sectionName doc c name doc' c'}, P sectionName doc →
    d.readHeader doc c = .ok ((name, doc'), c') → P name doc')
  (hitem : ∀ {sectionName doc c doc' c'}, P sectionName doc →
    d.readItem sectionName doc c = .ok (doc', c') → P sectionName doc')
include hheader hitem

/-- **What headers and items keep is kept line by line.** By induction on the fuel. -/
theorem readLines_keeps {fuel : Nat} (hP : P sectionName doc)
    (h : d.readLines fuel sectionName doc c = .ok doc') : ∃ name, P name doc' := by
  induction fuel generalizing sectionName doc c with
  | zero =>
      obtain rfl := Except.ok.inj h
      exact ⟨sectionName, hP⟩
  | succ fuel ih =>
      rw [readLines] at h
      split at h
      · obtain rfl := Except.ok.inj h
        exact ⟨sectionName, hP⟩
      · dsimp only at h
        split at h
        · exact ih hP h
        · split at h
          · exact ih hP h
          · split at h
            · obtain ⟨⟨⟨name, doc₁⟩, c₁⟩, hread, hrest⟩ := exists_of_bind h
              exact ih (hheader hP hread) hrest
            · obtain ⟨⟨doc₁, c₁⟩, hread, hrest⟩ := exists_of_bind h
              exact ih (hitem hP hread) hrest

/-- What headers and items keep is kept by whole documents. -/
theorem readDocument_keeps (hP : P [] ⟨[], []⟩) (h : d.readDocument t = .ok doc) : ∃ name, P name doc :=
  readLines_keeps hheader hitem hP h

end Lines

/-- **Every document that is read is regular.** -/
theorem readDocument_isRegular (hd : d.IsRegular mode) (h : d.readDocument t = .ok doc) : doc.IsRegular mode := by
  refine (readDocument_keeps (P := fun name doc => IsPath name ∧ doc.IsRegular mode) ?_ ?_
    ⟨by decide, isRegular_nil mode⟩ h).elim fun _ hdoc => hdoc.2
  · rintro sectionName doc c name doc' c' ⟨-, hdoc⟩ hread
    obtain ⟨hname, hitems⟩ := readHeader_isPath hread
    refine ⟨hname, ?_⟩
    constructor <;> rw [hitems]
    · exact hdoc.group
    · exact hdoc.key
    · exact hdoc.value
    · exact hdoc.once
  · rintro sectionName doc c doc' c' ⟨hsection, hdoc⟩ hread
    exact ⟨hsection, readItem_isRegular hd hsection hdoc hread⟩

/-- **No document that is read has two items with the same group and the same key**, whatever the rules are. -/
theorem readDocument_once (h : d.readDocument t = .ok doc) : (doc.items.map Item.identity).Nodup := by
  refine (readDocument_keeps (P := fun _ doc => (doc.items.map Item.identity).Nodup) ?_ ?_
    List.nodup_nil h).elim fun _ honce => honce
  · intro sectionName doc c name doc' c' honce hread
    rw [(readHeader_isPath hread).2]
    exact honce
  · intro sectionName doc c doc' c' honce hread
    obtain ⟨segments, value, -, -, hnew, rfl⟩ := readItem_cases hread
    rw [List.map_append, List.map_singleton, ← List.concat_eq_append]
    exact honce.concat hnew

/-- **No text that is read starts with a byte order mark.** -/
theorem not_mark_of_readDocument (hd : d.IsRegular mode) (h : d.readDocument t = .ok doc) :
    t.head? ≠ some byteOrderMark := by
  intro hhead
  obtain ⟨rest, rfl⟩ := List.head?_eq_some_iff.mp hhead
  have hstays : (Cursor.start (byteOrderMark :: rest)).skipInlineBlanks = .start (byteOrderMark :: rest) := by
    have hnone : (byteOrderMark :: rest).takeWhile Cursor.isInlineBlank = [] :=
      List.takeWhile_cons_of_neg (by decide)
    show advance ((byteOrderMark :: rest).takeWhile Cursor.isInlineBlank).length _ = _
    rw [hnone]
    rfl
  -- The mark is neither a blank nor the start of a comment or a header, so a key is read where it stands.
  have hcomment : ¬(Cursor.start (byteOrderMark :: rest)).isAt d.comment = true := by
    intro hat
    exact hd.comment (Option.some.inj (of_decide_eq_true hat)).symm
  rw [readDocument, List.length_cons, readLines, if_neg (by exact Bool.false_ne_true)] at h
  dsimp only at h
  rw [hstays, if_neg (by exact Bool.false_ne_true), if_neg hcomment, if_neg (by exact Bool.false_ne_true)] at h
  obtain ⟨r, hitem, -⟩ := exists_of_bind h
  obtain ⟨key, hkey, -⟩ := exists_of_bind hitem
  exact hd.readKey_mark hkey rfl

/-! ## Fewer keys -/

section Narrower

variable {readKey' : Cursor → Except TextError (List Text × Cursor)}
  (hkey : ∀ {c r}, readKey' c = .ok r → d.readKey c = .ok r)
include hkey

theorem readItem_of_readKey {r : Document × Cursor}
    (h : { d with readKey := readKey' }.readItem sectionName doc c = .ok r) :
    d.readItem sectionName doc c = .ok r := by
  obtain ⟨⟨segments, c₁⟩, hread, hrest⟩ := exists_of_bind h
  rw [readItem, hkey hread]
  exact hrest

theorem readLines_of_readKey {fuel : Nat}
    (h : { d with readKey := readKey' }.readLines fuel sectionName doc c = .ok doc') :
    d.readLines fuel sectionName doc c = .ok doc' := by
  -- Only items read keys; all other branches are the same for both.
  induction fuel generalizing sectionName doc c with
  | zero => exact h
  | succ fuel ih =>
      rw [readLines] at h ⊢
      split at h
      · next hend =>
        rw [if_pos hend]
        exact h
      · next hend =>
        rw [if_neg hend]
        dsimp only at h ⊢
        split at h
        · next hline =>
          rw [if_pos hline]
          exact ih h
        · next hline =>
          rw [if_neg hline]
          split at h
          · next hcomment =>
            rw [if_pos hcomment]
            exact ih h
          · next hcomment =>
            rw [if_neg hcomment]
            split at h
            · next hheader =>
              rw [if_pos hheader]
              obtain ⟨⟨⟨name, doc₁⟩, c₁⟩, hread, hrest⟩ := exists_of_bind h
              have hsame : d.readHeader doc c.skipInlineBlanks = .ok ((name, doc₁), c₁) := hread
              rw [hsame]
              exact ih hrest
            · next hheader =>
              rw [if_neg hheader]
              obtain ⟨⟨doc₁, c₁⟩, hread, hrest⟩ := exists_of_bind h
              rw [readItem_of_readKey hkey hread]
              exact ih hrest

/-- **What is read where fewer keys are accepted is read where more are.** -/
theorem readDocument_of_readKey (h : { d with readKey := readKey' }.readDocument t = .ok doc) :
    d.readDocument t = .ok doc := readLines_of_readKey hkey h

end Narrower

end Dialect

/-! ## Keys of names -/

theorem not_continues_dot : continuesKey dot = false := by decide +kernel

/-- A run of code points that keys are made of is a name, if there are any. -/
theorem isName_takeWhile {t : Text} (h : t.head?.any startsKey = true) : IsName (t.takeWhile continuesKey) := by
  constructor
  · cases t with
    | nil => cases h
    | cons x t =>
        rw [List.takeWhile_cons_of_pos (continues_of_starts h)]
        exact List.cons_ne_nil x _
  · intro hdot
    have hcontinues := List.mem_takeWhile_imp hdot
    rw [not_continues_dot] at hcontinues
    cases hcontinues

theorem isName_star : IsName "*" := by decide

theorem not_starts_mark : startsKey byteOrderMark = false := by decide +kernel

namespace Ini

/-- **The keys of ini files are names.** Their values are not decoded. -/
theorem isRegular_dialect : dialect.IsRegular .none where
  readKey {c segments c'} h := by
    have hread : readKey c = .ok (segments, c') := h
    unfold readKey at hread
    split at hread
    · obtain ⟨rfl, -⟩ := Prod.mk.inj (Except.ok.inj hread)
      exact ⟨List.cons_ne_nil _ _, fun s hs => List.mem_singleton.mp hs ▸ isName_star⟩
    · split at hread
      · cases hread
      · next hstarts =>
        obtain ⟨rfl, -⟩ := Prod.mk.inj (Except.ok.inj hread)
        refine ⟨List.cons_ne_nil _ _, fun s hs => ?_⟩
        rw [List.mem_singleton.mp hs, Cursor.textTo_skipWhile]
        exact isName_takeWhile (by simpa using hstarts)
  readKey_mark {c r} h hmark := by
    have hread : readKey c = .ok r := h
    have hstar : ¬c.isAt (CodePoint.ofChar '*') = true := by
      rw [Cursor.isAt, hmark]
      decide
    rw [readKey, if_neg hstar, hmark, Option.any_some, not_starts_mark, if_pos (by rfl)] at hread
    cases hread
  comment := by decide
  readValue {c w c'} h := by
    obtain ⟨rfl, -⟩ := Prod.mk.inj (Except.ok.inj h)
    intro hsome
    cases hsome

end Ini

namespace Toml

variable {c c' : Cursor}

/-- The segments of a key, none of which is quoted. -/
def readBareKey (c : Cursor) : Except TextError (List Text × Cursor) := do
  let (segments, after) ← readKey c
  if doubleQuote ∈ c.textTo after then .error (Dialect.unexpected c) else return (segments, after)

/-- The rules of toml files in which no key is quoted. -/
def bareDialect : Dialect := { dialect with readKey := readBareKey }

theorem readKey_of_bare {r : List Text × Cursor} (h : readBareKey c = .ok r) :
    readKey c = .ok r ∧ doubleQuote ∉ c.textTo r.2 := by
  obtain ⟨⟨segments, after⟩, hread, hrest⟩ := exists_of_bind h
  dsimp only at hrest
  split at hrest
  · cases hrest
  · next hquote =>
    obtain rfl := Except.ok.inj hrest
    exact ⟨hread, hquote⟩

/-- Toml files without quoted keys are toml files. -/
theorem readDocument_of_bare {t : Text} {doc : Document} (h : bareDialect.readDocument t = .ok doc) :
    dialect.readDocument t = .ok doc :=
  Dialect.readDocument_of_readKey (fun hread => (readKey_of_bare hread).1) h

/-- What is passed over after some moves lies further on. -/
theorem mem_take_of_advance {x : CodePoint} {m n : Nat} (h : x ∈ (advance m c).rest.take n) :
    x ∈ c.rest.take (m + n) := by
  rw [Cursor.advance_rest] at h
  rw [List.take_add]
  exact List.mem_append_right _ h

/-- **A segment is a name, or a quote was passed over.** -/
theorem readSegment_cases {isFirst : Bool} {s : Text} (h : readSegment isFirst c = .ok (s, c')) :
    ∃ n, c' = advance n c ∧ (doubleQuote ∈ c.rest.take n ∨ IsName s) := by
  unfold readSegment at h
  split at h
  · next hquote =>
    unfold readQuotedSegment at h
    dsimp only at h
    split at h
    · obtain ⟨-, rfl⟩ := Prod.mk.inj (Except.ok.inj h)
      refine ⟨1 + quotedLength 0 c.next.rest + 1, ?_, .inl ?_⟩
      · rw [← Cursor.advance_advance, ← Cursor.advance_advance]
        rfl
      -- The opening quote is the first code point of those that are taken.
      · have hhead : c.rest.head? = some doubleQuote := of_decide_eq_true hquote
        obtain ⟨rest, hrest⟩ := List.head?_eq_some_iff.mp hhead
        rw [hrest, Nat.add_assoc, Nat.add_comm 1, List.take_succ_cons]
        exact List.mem_cons_self
    · cases h
  · split at h
    · obtain ⟨rfl, rfl⟩ := Prod.mk.inj (Except.ok.inj h)
      exact ⟨1, rfl, .inr isName_star⟩
    · split at h
      · next hstarts =>
        obtain ⟨rfl, rfl⟩ := Prod.mk.inj (Except.ok.inj h)
        refine ⟨(c.rest.takeWhile continuesKey).length, rfl, .inr ?_⟩
        rw [Cursor.textTo_skipWhile]
        exact isName_takeWhile hstarts
      · cases h

/-- The segments of a key are names, or a quote was passed over. -/
theorem readSegments_cases {fuel : Nat} {isFirst : Bool} {segments : List Text}
    (h : readSegments fuel isFirst c = .ok (segments, c')) :
    ∃ n, c' = advance n c ∧ (doubleQuote ∈ c.rest.take n ∨ ∀ s ∈ segments, IsName s) := by
  induction fuel generalizing isFirst c c' segments with
  | zero =>
      obtain ⟨rfl, rfl⟩ := Prod.mk.inj (Except.ok.inj h)
      exact ⟨0, rfl, .inr fun _ hs => nomatch hs⟩
  | succ fuel ih =>
      rw [readSegments] at h
      obtain ⟨⟨s, c₁⟩, hsegment, hrest⟩ := exists_of_bind h
      obtain ⟨n, rfl, hs⟩ := readSegment_cases hsegment
      dsimp only at hrest
      -- The blanks after the segment, and after a full stop the blanks before the next one.
      obtain ⟨k, hblanks⟩ : ∃ k, (advance n c).skipInlineBlanks = advance (n + k) c :=
        ⟨_, Cursor.advance_advance n _ c⟩
      rw [hblanks] at hrest
      split at hrest
      · have hnext : (advance (n + k) c).next = advance (n + k + 1) c := Cursor.advance_advance (n + k) 1 c
        obtain ⟨m, hdot⟩ : ∃ m, (advance (n + k + 1) c).skipInlineBlanks = advance (n + k + 1 + m) c :=
          ⟨_, Cursor.advance_advance (n + k + 1) _ c⟩
        obtain ⟨⟨more, c₂⟩, hmore, hok⟩ := exists_of_bind hrest
        rw [hnext, hdot] at hmore
        obtain ⟨j, rfl, hnames⟩ := ih hmore
        obtain ⟨rfl, rfl⟩ := Prod.mk.inj (Except.ok.inj hok)
        refine ⟨n + k + 1 + m + j, Cursor.advance_advance _ _ c, ?_⟩
        rcases hs with hquote | hs
        · exact .inl (List.take_subset_take_left _ (by omega) hquote)
        · rcases hnames with hquote | hnames
          · exact .inl (mem_take_of_advance hquote)
          · exact .inr (List.forall_mem_cons.mpr ⟨hs, hnames⟩)
      · obtain ⟨rfl, rfl⟩ := Prod.mk.inj (Except.ok.inj hrest)
        refine ⟨n + k, rfl, ?_⟩
        rcases hs with hquote | hs
        · exact .inl (List.take_subset_take_left _ (by omega) hquote)
        · exact .inr fun t ht => List.mem_singleton.mp ht ▸ hs

theorem readSegments_ne_nil {fuel : Nat} {isFirst : Bool} {segments : List Text}
    (h : readSegments (fuel + 1) isFirst c = .ok (segments, c')) : segments ≠ [] := by
  rw [readSegments] at h
  obtain ⟨⟨s, c₁⟩, -, hrest⟩ := exists_of_bind h
  dsimp only at hrest
  split at hrest
  · obtain ⟨⟨more, c₂⟩, -, hok⟩ := exists_of_bind hrest
    obtain ⟨rfl, -⟩ := Prod.mk.inj (Except.ok.inj hok)
    exact List.cons_ne_nil s more
  · obtain ⟨rfl, -⟩ := Prod.mk.inj (Except.ok.inj hrest)
    exact List.cons_ne_nil s []

/-- **The keys of toml files are names where none is quoted.** -/
theorem isRegular_bareDialect : bareDialect.IsRegular .backslash where
  readKey {c segments c'} h := by
    obtain ⟨hread, hquote⟩ := readKey_of_bare h
    obtain ⟨n, rfl, hcases⟩ := readSegments_cases hread
    rw [Cursor.textTo_advance] at hquote
    exact ⟨readSegments_ne_nil hread, hcases.resolve_left hquote⟩
  readKey_mark {c r} h hmark := by
    have hread : readSegments (c.rest.length + 1) true c = .ok r := (readKey_of_bare h).1
    rw [readSegments] at hread
    obtain ⟨segment, hsegment, -⟩ := exists_of_bind hread
    have hquote : ¬c.isAt doubleQuote = true := by
      rw [Cursor.isAt, hmark]
      decide
    have hstar : ¬(true && c.isAt (CodePoint.ofChar '*')) = true := by
      rw [Cursor.isAt, hmark]
      decide
    rw [readSegment, if_neg hquote, if_neg hstar, hmark, Option.any_some, not_starts_mark,
      if_neg Bool.false_ne_true] at hsegment
    cases hsegment
  comment := by decide
  readValue _ := fun _ => rfl

end Toml

end Phrasebook.Files
