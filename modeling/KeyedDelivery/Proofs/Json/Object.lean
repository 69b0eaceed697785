import KeyedDelivery.Json.Record
import KeyedDelivery.Proofs.Json.Values

/-!
# Records are read from objects with members in any order

An object is read member by member. A member that no field has the name of is passed over and changes
nothing; any other one sets the field of its name, which must not be set yet. So what is still due is
counted: a field that is not set has to have one member among those that are left, and one that is set
has to have none.

* **`Format.Lawful`** — what is needed of the fields of a record.
* **`Format.Due`** — each field is set or has a member left, and not both or twice.
* **`Format.readMembers_due`**, **`Format.due_of_readMembers`** — objects in which this holds are read,
  and no others; induction on the members that are left.
* **`Format.decode_object`**, **`Format.once_of_decode`** — the same of whole texts.
* **`Format.decode_fills`** — an object whose members are values for the fields, in any order.
-/

namespace KeyedDelivery.Json

/-! ## Fields -/

/-- A field that is read by such a reader ends where its value ends. -/
theorem Field.of_passes {δ α : Type} {reader : ValueReader α} (h : reader.Passes) (name : String)
    (get : δ → Option α) (set : α → δ → δ) : (Field.of name reader get set).enter.Passes := h.map set

/-- What is entered into a draft is a value of the field. -/
theorem Field.of_sets {δ α : Type} {reader : ValueReader α} {name : String} {get : δ → Option α}
    {set : α → δ → δ} {s r : List Char} {entered : δ → δ}
    (h : (Field.of name reader get set).enter.read s = .ok (entered, r)) : ∃ a, entered = set a := by
  simp only [Field.of, ValueReader.map, ValueReader.refine] at h
  split at h
  · cases h
  · next a t _ =>
    cases h
    exact ⟨a, rfl⟩

/-- A required field that was given has its value. -/
theorem required_bind {α β : Type} {name : String} {o : Option α} {k : α → Except Mismatch β} {b : β}
    (h : required name o >>= k = .ok b) : ∃ a, o = some a ∧ k a = .ok b := by
  cases o with
  | none => cases h
  | some a => exact ⟨a, rfl, h⟩

/-! ## The members that are left -/

/-- What stands before members that are left, `first` if none was read yet, and before `t` after the end
of the object. -/
inductive Left (t : List Char) : Bool → List (String × List Char) → List Char → Prop where
  | done {first : Bool} {b : List Char} (spaces : Spaces b) : Left t first [] (b ++ '\x7d' :: t)
  | first {ms : List (String × List Char)} {s : List Char} (members : Members ms s) :
      Left t true ms (s ++ '\x7d' :: t)
  | next {ms : List (String × List Char)} {b s : List Char} (spaces : Spaces b)
      (members : Members ms s) : Left t false ms (b ++ ',' :: (s ++ '\x7d' :: t))

/-- The end of an object is found. -/
theorem Left.closes {t w : List Char} {first : Bool} (h : Left t first [] w) :
    Format.nextMember first w = .ok none ∧ Format.endObject w = .ok t := by
  cases h with
  | @done first b spaces =>
    have hfront : skipBlanks (b ++ '\x7d' :: t) = '\x7d' :: t := by
      rw [skipBlanks_append spaces, skipBlanks_cons rfl]
    rw [Format.nextMember, Format.endObject, hfront]
    exact ⟨rfl, rfl⟩
  | first members => cases members
  | next _ members => cases members

/-- A colon and a value, before `w`. -/
structure Valued (v w s : List Char) : Prop where
  text : ∃ b b', Spaces b ∧ Spaces b' ∧ s = b ++ ':' :: (b' ++ (v ++ w))
  value : WellFormed .value v
  unextended : Unextended w

/-- The colon is passed, up to the white space before the value. -/
theorem Valued.colon {v w s : List Char} (h : Valued v w s) :
    ∃ b, Spaces b ∧ skipColon s = .ok (b ++ (v ++ w)) := by
  obtain ⟨b, b', hb, hb', rfl⟩ := h.text
  exact ⟨b', hb', skipColon_append hb _⟩

/-- A member is found by its quote and its name is read, when it ends at `c`. -/
theorem valued_of_named {name body v s t w : List Char} {c : Char} (spells : Spells body name)
    (value : WellFormed .value v) (padded : Padded v s) (named : Named body s t)
    (hc : Text.isDigit c = false ∧ c ≠ '.' ∧ c ≠ 'e' ∧ c ≠ 'E') :
    ∃ r u b, skipBlanks (t ++ c :: w) = '"' :: r ∧ readText r = .ok (name, u) ∧
      Spaces b ∧ Valued v (b ++ c :: w) u := by
  obtain ⟨b, hb, hfront⟩ := skipBlanks_named named (c :: w)
  obtain ⟨b', b'', hb', hb'', rfl⟩ := padded
  refine ⟨_, _, b'', hfront, readText_spells spells _, hb'', ⟨b, b', hb, hb', ?_⟩, value,
    unextended_append hb'' (unextended_cons hc w)⟩
  simp only [List.append_assoc]

/-- The first of the members of an object, before the end of the object or before a comma. -/
theorem Left.member {t s : List Char} {name : String} {v : List Char}
    {ms : List (String × List Char)} (h : Members ((name, v) :: ms) s) :
    ∃ r u w, skipBlanks (s ++ '\x7d' :: t) = '"' :: r ∧ readText r = .ok (name.toList, u) ∧
      Valued v w u ∧ Left t false ms w := by
  cases h with
  -- behind the last member stands the brace, and behind every other one a comma
  | last spells value padded named =>
    obtain ⟨r, u, b, hfront, hname, hb, hu⟩ :=
      valued_of_named (c := '\x7d') (w := t) spells value padded named (by decide)
    exact ⟨r, u, _, hfront, hname, hu, .done hb⟩
  | @more _ _ _ _ _ s' _ spells value padded named rest =>
    obtain ⟨r, u, b, hfront, hname, hb, hu⟩ :=
      valued_of_named (c := ',') (w := s' ++ '\x7d' :: t) spells value padded named (by decide)
    refine ⟨r, u, _, ?_, hname, hu, .next hb rest⟩
    rw [List.append_assoc, List.cons_append, hfront]

/-- The next member is found, whether or not it is the first. -/
theorem Left.next_member {t w : List Char} {first : Bool} {name : String} {v : List Char}
    {ms : List (String × List Char)} (h : Left t first ((name, v) :: ms) w) :
    ∃ r u w', Format.nextMember first w = .ok (some r) ∧ readText r = .ok (name.toList, u) ∧
      Valued v w' u ∧ Left t false ms w' := by
  cases h with
  -- the first member has no comma in front
  | first members =>
    obtain ⟨r, u, w', hfront, hrest⟩ := Left.member (t := t) members
    refine ⟨r, u, w', ?_, hrest⟩
    rw [Format.nextMember, hfront]
    rfl
  | @next _ b s spaces members =>
    obtain ⟨r, u, w', hfront, hrest⟩ := Left.member (t := t) members
    refine ⟨r, u, w', ?_, hrest⟩
    rw [Format.nextMember, skipBlanks_append spaces, skipBlanks_cons rfl]
    simp only [hfront, Bool.false_eq_true, if_false]

namespace Format

variable {δ α : Type} {f : Format δ α} {d d' : δ} {a : α} {ms : List (String × List Char)}

/-! ## Lawful formats -/

/-- The fields of a record do not get in each other's way: each is found by its name, ends where its
value ends and sets itself and no other, and the record is finished only when all are set. -/
structure Lawful (f : Format δ α) : Prop where
  found : ∀ x ∈ f.fields, f.field? x.name = some x
  passes : ∀ x ∈ f.fields, x.enter.Passes
  sets : ∀ x ∈ f.fields, ∀ {s r : List Char} {set : δ → δ}, x.enter.read s = .ok (set, r) →
    ∀ y ∈ f.fields, ∀ d, y.isSet (set d) = (x.name == y.name || y.isSet d)
  blank : ∀ x ∈ f.fields, x.isSet f.blank = false
  finished : ∀ {d : δ} {a : α}, f.finish d = .ok a → ∀ x ∈ f.fields, x.isSet d = true

/-- Each field is set, or else has a member among those that are left, one and not more. -/
def Due (f : Format δ α) (d : δ) (names : List String) : Prop :=
  ∀ x ∈ f.fields, (x.isSet d).toNat + names.count x.name = 1

/-- The text of a member is taken by the field of its name, if there is one, and entering it keeps what is
told of a draft. -/
def Keeps (f : Format δ α) (Told : δ → Prop) (name : String) (v : List Char) : Prop :=
  ∀ x, f.field? name = some x → ∃ set, x.enter.Takes v set ∧ ∀ d, Told d → Told (set d)

/-- Members that give values to fields of a draft, each to one that is not set yet. -/
inductive Fills (f : Format δ α) : δ → List (String × List Char) → δ → Prop where
  | nil {d : δ} : Fills f d [] d
  | field {name : String} {v : List Char} {ms : List (String × List Char)} {d d' : δ} {x : Field δ}
      {set : δ → δ} (found : f.field? name = some x) (unset : x.isSet d = false)
      (takes : x.enter.Takes v set) (rest : Fills f (set d) ms d') : Fills f d ((name, v) :: ms) d'

/-- The field that is found is one of the record, and has the name. -/
theorem field?_spec {name : String} {x : Field δ} (h : f.field? name = some x) :
    x ∈ f.fields ∧ x.name = name :=
  ⟨List.mem_of_find?_eq_some h, by simpa using List.find?_some h⟩

/-! ## One member -/

/-- The value of a field that is not set yet is entered. -/
theorem enterMember_takes {name : String} {x : Field δ} {v w s : List Char} {set : δ → δ}
    (named : f.field? name = some x) (unset : x.isSet d = false) (takes : x.enter.Takes v set)
    (h : Valued v w s) : f.enterMember d name s = .ok (set d, w) := by
  obtain ⟨b, hb, hcolon⟩ := h.colon
  simp only [enterMember, named, unset, hcolon, takes b w hb h.unextended, Bool.false_eq_true,
    if_false]

/-- A member that no field has the name of is passed over. -/
theorem enterMember_other {name : String} {v w s : List Char} (named : f.field? name = none)
    (h : Valued v w s) : f.enterMember d name s = .ok (d, w) := by
  obtain ⟨b, hb, hcolon⟩ := h.colon
  simp only [enterMember, named, hcolon, skipValue_wellFormed h.value hb h.unextended]

/-- What was entered of a member is a value of its field, which was not set before. -/
theorem enterMember_entered {x : Field δ} {name : String} {s t r : List Char}
    (named : f.field? name = some x) (hcolon : skipColon s = .ok t)
    (h : f.enterMember d name s = .ok (d', r)) :
    x.isSet d = false ∧ ∃ set, x.enter.read t = .ok (set, r) ∧ d' = set d := by
  rw [enterMember, named] at h
  dsimp only at h
  split at h
  · cases h
  · -- a field that is set already refuses a second member
    next hunset =>
    rw [hcolon] at h
    dsimp only at h
    split at h
    · cases h
    · next set _ hread =>
      cases h
      exact ⟨by simpa using hunset, set, hread, rfl⟩

/-- **What a member does**: the rest is what follows the member, and of the fields only that of its name
is set, which was not set before. -/
theorem enterMember_ok (hf : f.Lawful) {name : String} {v w s r : List Char} (hs : Valued v w s)
    (h : f.enterMember d name s = .ok (d', r)) :
    r = w ∧ ∀ y ∈ f.fields,
      (y.isSet d').toNat = (y.isSet d).toNat + if name == y.name then 1 else 0 := by
  cases hfield : f.field? name with
  | none =>
    rw [enterMember_other hfield hs] at h
    cases h
    refine ⟨rfl, fun y hy => ?_⟩
    have hother : (name == y.name) = false := by
      rw [beq_eq_false_iff_ne]
      rintro rfl
      exact List.find?_eq_none.mp hfield y hy (beq_self_eq_true y.name)
    rw [hother]
    rfl
  | some x =>
    obtain ⟨hx, rfl⟩ := field?_spec hfield
    obtain ⟨b, hb, hcolon⟩ := hs.colon
    obtain ⟨hunset, set, hread, rfl⟩ := enterMember_entered hfield hcolon h
    have hpassed := skipValue_wellFormed hs.value hb hs.unextended
    refine ⟨Except.ok.inj ((hf.passes x hx hread).symm.trans hpassed), fun y hy => ?_⟩
    rw [hf.sets x hx hread y hy]
    cases hname : x.name == y.name with
    | true =>
      -- there is one field of a name
      have hfound := hf.found y hy
      rw [← beq_iff_eq.mp hname, hfield] at hfound
      obtain rfl := Option.some.inj hfound
      rw [hunset]
      rfl
    | false => rfl

/-! ## What is due -/

/-- Reading a member takes it off what is due. -/
theorem due_cons_iff {name : String} {names : List String}
    (h : ∀ y ∈ f.fields, (y.isSet d').toNat = (y.isSet d).toNat + if name == y.name then 1 else 0) :
    f.Due d (name :: names) ↔ f.Due d' names := by
  refine forall₂_congr fun y hy => ?_
  rw [h y hy, List.count_cons]
  constructor <;> intro heq <;> omega

/-- A field that has a member left is not set. -/
theorem Due.unset {x : Field δ} {names : List String} (h : f.Due d (x.name :: names))
    (hx : x ∈ f.fields) : x.isSet d = false := by
  have hone := h x hx
  rw [List.count_cons_self] at hone
  cases hset : x.isSet d with
  | false => rfl
  | true =>
    rw [hset, Bool.toNat_true] at hone
    omega

/-- When no member is left, every field has to be set. -/
theorem due_nil_iff : f.Due d [] ↔ ∀ x ∈ f.fields, x.isSet d = true := by
  refine forall₂_congr fun x _ => ?_
  cases x.isSet d <;> simp

/-- Before anything is read, the members that are due are one for each field. -/
theorem due_blank_iff (hf : f.Lawful) {names : List String} :
    f.Due f.blank names ↔ ∀ x ∈ f.fields, names.count x.name = 1 := by
  refine forall₂_congr fun x hx => ?_
  rw [hf.blank x hx, Bool.toNat_false, Nat.zero_add]

/-- A member that is due is read, or passed over. -/
theorem enterMember_due {Told : δ → Prop} {name : String} {names : List String} {v w s : List Char}
    (hkeeps : f.Keeps Told name v) (hd : Told d) (hdue : f.Due d (name :: names))
    (hs : Valued v w s) : ∃ d', f.enterMember d name s = .ok (d', w) ∧ Told d' := by
  cases hfield : f.field? name with
  | none => exact ⟨d, enterMember_other hfield hs, hd⟩
  | some x =>
    obtain ⟨set, htakes, htold⟩ := hkeeps x hfield
    obtain ⟨hx, rfl⟩ := field?_spec hfield
    exact ⟨set d, enterMember_takes hfield (hdue.unset hx) htakes hs, htold d hd⟩

/-! ## All members -/

/-- After the last member the draft is finished. -/
theorem readMembers_end {first : Bool} {s r : List Char} (hnext : nextMember first s = .ok none)
    (hend : endObject s = .ok r) (hfinish : f.finish d = .ok a) :
    f.readMembers first d s = .ok (a, r) := by
  rw [readMembers]
  split
  · next h => cases hnext.symm.trans h
  · rw [hfinish, hend]
  · next h => cases hnext.symm.trans h

/-- A member is read into the draft. -/
theorem readMembers_member {first : Bool} {s t u : List Char} {name : List Char}
    (hnext : nextMember first s = .ok (some t)) (hname : readText t = .ok (name, u)) :
    f.readMembers first d s = match f.enterMember d (String.ofList name) u with
      | .error e => .error e
      | .ok (d', w) => f.readMembers false d' w := by
  rw [readMembers]
  split
  · -- of the cases of the reader, only the one of a member with a name is left
    next h => cases hnext.symm.trans h
  · next h => cases hnext.symm.trans h
  · next h =>
    cases hnext.symm.trans h
    split
    · next h => cases hname.symm.trans h
    · next h =>
      cases hname.symm.trans h
      split
      · next h => rw [h]
      · next h => simp only [h]

/-- **Members that are due are read.** Every member keeps what is told of the draft. -/
theorem readMembers_due (hf : f.Lawful) {Told : δ → Prop}
    (hfinish : ∀ d, Told d → (∀ x ∈ f.fields, x.isSet d = true) → f.finish d = .ok a)
    {t w : List Char} {first : Bool} (hleft : Left t first ms w)
    (hkeeps : ∀ m ∈ ms, f.Keeps Told m.1 m.2) (hd : Told d) (hdue : f.Due d (ms.map (·.1))) :
    f.readMembers first d w = .ok (a, t) := by
  induction ms generalizing first d w with
  | nil =>
    obtain ⟨hnext, hend⟩ := hleft.closes
    exact readMembers_end hnext hend (hfinish d hd (due_nil_iff.mp hdue))
  | cons m ms ih =>
    obtain ⟨name, v⟩ := m
    obtain ⟨r, u, w', hnext, hname, hu, hleft⟩ := hleft.next_member
    obtain ⟨hkeep, hrest⟩ := List.forall_mem_cons.mp hkeeps
    -- the next member is entered, and the fields that are due are those of the others
    obtain ⟨d', henter, hd'⟩ := enterMember_due hkeep hd hdue hu
    have hdue' : f.Due d' (ms.map (·.1)) := (due_cons_iff (enterMember_ok hf hu henter).2).mp hdue
    rw [readMembers_member hnext hname, String.ofList_toList, henter]
    exact ih hleft hrest hd' hdue'

/-- **Members that fill a draft are read.** -/
theorem readMembers_fills {t w : List Char} {first : Bool} (hleft : Left t first ms w)
    (hfills : f.Fills d ms d') (hfinish : f.finish d' = .ok a) :
    f.readMembers first d w = .ok (a, t) := by
  induction hfills generalizing first w with
  | nil =>
    obtain ⟨hnext, hend⟩ := hleft.closes
    exact readMembers_end hnext hend hfinish
  | field found unset takes _ ih =>
    obtain ⟨r, u, w', hnext, hname, hu, hleft⟩ := hleft.next_member
    rw [readMembers_member hnext hname, String.ofList_toList, enterMember_takes found unset takes hu]
    exact ih hleft hfinish

/-- **Only members that are due are read.** -/
theorem due_of_readMembers (hf : f.Lawful) {t w r : List Char} {first : Bool}
    (hleft : Left t first ms w) (h : f.readMembers first d w = .ok (a, r)) :
    f.Due d (ms.map (·.1)) := by
  induction ms generalizing first d w with
  | nil =>
    have hnext := hleft.closes.1
    rw [readMembers] at h
    split at h
    · cases h
    · split at h
      · cases h
      · -- the draft was finished, so that every field is set
        next hfinish => exact due_nil_iff.mpr (hf.finished hfinish)
    · next hsome => cases hnext.symm.trans hsome
  | cons m ms ih =>
    obtain ⟨name, v⟩ := m
    obtain ⟨r, u, w', hnext, hname, hu, hleft⟩ := hleft.next_member
    rw [readMembers_member hnext hname, String.ofList_toList] at h
    split at h
    · cases h
    · next d' _ henter =>
      -- the member was entered, so that its field was not set before
      obtain ⟨rfl, hset⟩ := enterMember_ok hf hu henter
      exact (due_cons_iff hset).mpr (ih hleft h)

/-! ## Whole texts -/

/-- The text of an object is read as its members, up to white space. -/
theorem read_objectText {text : List Char} (h : ObjectText ms text) :
    ∃ b w, Spaces b ∧ Left b true ms w ∧ f.read text = f.readMembers true f.blank w := by
  obtain ⟨s, hs, b, b', hb, hb', rfl⟩ := h
  refine ⟨b', s ++ '\x7d' :: b', hb', ?_, ?_⟩
  · obtain ⟨rfl, hspaces⟩ | hmembers := hs
    · exact .done hspaces
    · exact .first hmembers
  · rw [read, skipBlanks_append hb, List.cons_append, skipBlanks_cons rfl, List.append_assoc,
      List.singleton_append]
    rfl

/-- A text whose members are read is decoded. -/
theorem decode_objectText {text : String} (h : ObjectText ms text.toList)
    (hmembers : ∀ t w, Left t true ms w → f.readMembers true f.blank w = .ok (a, t)) :
    f.decode text = .ok a := by
  obtain ⟨b, w, hb, hleft, hread⟩ := read_objectText (f := f) h
  have hrest : skipBlanks b = [] := by
    rw [← List.append_nil b, skipBlanks_append hb]
    rfl
  rw [decode, hread, hmembers b w hleft]
  dsimp only
  rw [hrest]
  rfl

/-- **An object is decoded** that has one member for each field, whatever stands between them. -/
theorem decode_object (hf : f.Lawful) {Told : δ → Prop} (hblank : Told f.blank)
    (hfinish : ∀ d, Told d → (∀ x ∈ f.fields, x.isSet d = true) → f.finish d = .ok a)
    {text : String} (h : ObjectText ms text.toList) (hkeeps : ∀ m ∈ ms, f.Keeps Told m.1 m.2)
    (honce : ∀ x ∈ f.fields, (ms.map (·.1)).count x.name = 1) : f.decode text = .ok a := by
  have hdue : f.Due f.blank (ms.map (·.1)) := (due_blank_iff hf).mpr honce
  exact decode_objectText h fun _ _ hleft => readMembers_due hf hfinish hleft hkeeps hblank hdue

/-- **A record is decoded** from members that fill a draft of it. -/
theorem decode_fills {text : String} (h : ObjectText ms text.toList) (hfills : f.Fills f.blank ms d)
    (hfinish : f.finish d = .ok a) : f.decode text = .ok a :=
  decode_objectText h fun _ _ hleft => readMembers_fills hleft hfills hfinish

/-- **No other object is decoded.** -/
theorem once_of_decode (hf : f.Lawful) {text : String} (h : ObjectText ms text.toList)
    (hdecode : f.decode text = .ok a) : ∀ x ∈ f.fields, (ms.map (·.1)).count x.name = 1 := by
  obtain ⟨b, w, -, hleft, hread⟩ := read_objectText (f := f) h
  rw [decode, hread] at hdecode
  split at hdecode
  · cases hdecode
  · next hmembers => exact (due_blank_iff hf).mp (due_of_readMembers hf hleft hmembers)

end Format

/-! ## What is written -/

/-- Members that are written one behind the other are the members of an object. -/
theorem members_separated {m : String × List Char} {ms : List (String × List Char)}
    (h : ∀ m' ∈ m :: ms, WellFormed .value m'.2) :
    Members (m :: ms) (separated ((m :: ms).map fun m' => writeString m'.1 ++ ':' :: m'.2)) := by
  induction ms generalizing m with
  | nil =>
    have hvalue := h m List.mem_cons_self
    exact .last (spells_written m.1.toList) hvalue (padded_self m.2) (named_self _ m.2)
  | cons m' ms ih =>
    obtain ⟨hvalue, hrest⟩ := List.forall_mem_cons.mp h
    have hmore := Members.more (spells_written m.1.toList) hvalue (padded_self _) (named_self _ _)
      (ih hrest)
    rw [List.map_cons, List.map_cons, separated]
    exact hmore

/-- **An object that is written has the members that it was written with.** -/
theorem objectText_writeObject {ms : List (String × List Char)}
    (h : ∀ m ∈ ms, WellFormed .value m.2) : ObjectText ms (writeObject ms) := by
  rw [writeObject, List.cons_append]
  refine ⟨_, ?_, padded_self _⟩
  cases ms with
  | nil => exact .inl ⟨rfl, by nofun⟩
  | cons m ms => exact .inr (members_separated h)

end KeyedDelivery.Json
