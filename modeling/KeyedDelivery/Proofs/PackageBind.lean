import KeyedDelivery.PackageBind
import KeyedDelivery.Proofs.Json.Object
import KeyedDelivery.Proofs.Text.Utf8

/-!
# Package bindings come back from their JSON

A binding is written as an object with a member for each of its fields, and read into a draft that
has every field in the end, whatever the texts of its fields hold. It is read as well from an object
that others wrote: with the members in another order, other spellings of the texts, white space, and
members that a binding does not have.

* **`ofJson_toJson`** — a binding is decoded as it was written.
* **`lawful_format`**, **`finish_eq`** — its fields are independent of each other, and all are required.
* **`ofJson_object`** — which objects are decoded, and as what.
-/

namespace KeyedDelivery

/-- The code of a bind type stands for this bind type. -/
theorem BindType.ofCode_code (t : BindType) : BindType.ofCode t.code = .ok t := by
  cases t <;> rfl

namespace PackageBind

/-- The draft of a binding that is complete. -/
def complete (b : PackageBind) : Draft where
  appId := some b.appId
  userCode := some b.userCode
  deviceCode := some b.deviceCode
  packageId := some b.packageId
  packageSource := some b.packageSource
  packageType := some b.packageType
  bindType := some b.bindType

/-- The members of a binding. -/
def fieldNames : List String :=
  ["appId", "userCode", "deviceCode", "packageId", "packageSource", "packageType", "bindType"]

/-- The text `v` of a member `name` tells what the binding has there. A string may be spelled in any way,
an integer is in plain decimal form; a member that a binding does not have tells nothing. -/
def Tells (b : PackageBind) (name : String) (v : List Char) : Prop :=
  match name with
  | "appId" => Json.Spelled b.appId v
  | "userCode" => Json.Spelled b.userCode v
  | "deviceCode" => Json.Spelled b.deviceCode v
  | "packageId" => Json.Spelled b.packageId v
  | "packageSource" => Json.Spelled b.packageSource v
  | "packageType" => v = Json.writeInteger b.packageType.toInt
  | "bindType" => v = Json.writeInteger b.bindType.code.toInt
  | _ => True

/-- What is in a draft is of the binding. -/
structure Agrees (b : PackageBind) (d : Draft) : Prop where
  appId : ∀ v ∈ d.appId, v = b.appId
  userCode : ∀ v ∈ d.userCode, v = b.userCode
  deviceCode : ∀ v ∈ d.deviceCode, v = b.deviceCode
  packageId : ∀ v ∈ d.packageId, v = b.packageId
  packageSource : ∀ v ∈ d.packageSource, v = b.packageSource
  packageType : ∀ v ∈ d.packageType, v = b.packageType
  bindType : ∀ v ∈ d.bindType, v = b.bindType

/-- A draft is finished only when it is complete. -/
theorem finish_eq {b : PackageBind} {d : Draft} (h : format.finish d = .ok b) : d = b.complete := by
  obtain ⟨appId, userCode, deviceCode, packageId, packageSource, packageType, bindType⟩ := d
  -- the seven fields are required one after the other
  obtain ⟨_, rfl, h⟩ := Json.required_bind h
  obtain ⟨_, rfl, h⟩ := Json.required_bind h
  obtain ⟨_, rfl, h⟩ := Json.required_bind h
  obtain ⟨_, rfl, h⟩ := Json.required_bind h
  obtain ⟨_, rfl, h⟩ := Json.required_bind h
  obtain ⟨_, rfl, h⟩ := Json.required_bind h
  obtain ⟨_, rfl, h⟩ := Json.required_bind h
  cases h
  rfl

/-- **The fields of a binding are independent of each other**, and all are required. -/
theorem lawful_format : format.Lawful where
  found := by
    intro x hx
    simp only [format, List.mem_cons, List.not_mem_nil, or_false] at hx
    rcases hx with rfl | rfl | rfl | rfl | rfl | rfl | rfl <;> rfl
  passes := by
    intro x hx
    simp only [format, List.mem_cons, List.not_mem_nil, or_false] at hx
    rcases hx with rfl | rfl | rfl | rfl | rfl | rfl | rfl
    · exact Json.Field.of_passes Json.string_passes _ _ _
    · exact Json.Field.of_passes Json.string_passes _ _ _
    · exact Json.Field.of_passes Json.string_passes _ _ _
    · exact Json.Field.of_passes Json.string_passes _ _ _
    · exact Json.Field.of_passes Json.string_passes _ _ _
    · exact Json.Field.of_passes Json.int32_passes _ _ _
    · exact Json.Field.of_passes (Json.int32_passes.refine _) _ _ _
  sets := by
    intro x hx s r set hread y hy d
    simp only [format, List.mem_cons, List.not_mem_nil, or_false] at hx hy
    rcases hx with rfl | rfl | rfl | rfl | rfl | rfl | rfl
    all_goals
      -- seven by seven: setting one field leaves whether another is set
      obtain ⟨v, rfl⟩ := Json.Field.of_sets hread
      rcases hy with rfl | rfl | rfl | rfl | rfl | rfl | rfl <;> rfl
  blank := by
    intro x hx
    simp only [format, List.mem_cons, List.not_mem_nil, or_false] at hx
    rcases hx with rfl | rfl | rfl | rfl | rfl | rfl | rfl <;> rfl
  finished := by
    intro d b h x hx
    rw [finish_eq h]
    simp only [format, List.mem_cons, List.not_mem_nil, or_false] at hx
    rcases hx with rfl | rfl | rfl | rfl | rfl | rfl | rfl <;> rfl

/-- A draft that agrees with a binding and has all fields is finished as this binding. -/
theorem Agrees.finish {b : PackageBind} {d : Draft} (h : b.Agrees d)
    (hset : ∀ x ∈ format.fields, x.isSet d = true) : format.finish d = .ok b := by
  -- a field that is set holds what agrees with the binding
  have heq {α : Type} {o : Option α} {a : α} (ho : ∀ v ∈ o, v = a) (hs : o.isSome = true) :
      o = some a := by
    obtain ⟨v, rfl⟩ := Option.isSome_iff_exists.mp hs
    rw [ho v rfl]
  have hcomplete : d = b.complete := by
    obtain ⟨appId, userCode, deviceCode, packageId, packageSource, packageType, bindType⟩ := d
    simp only [format, List.forall_mem_cons] at hset
    obtain ⟨h1, h2, h3, h4, h5, h6, h7, -⟩ := hset
    obtain rfl := heq h.appId h1
    obtain rfl := heq h.userCode h2
    obtain rfl := heq h.deviceCode h3
    obtain rfl := heq h.packageId h4
    obtain rfl := heq h.packageSource h5
    obtain rfl := heq h.packageType h6
    obtain rfl := heq h.bindType h7
    rfl
  rw [hcomplete]
  rfl

/-- What a member tells of a binding keeps a draft in agreement with it. -/
theorem Tells.keeps {b : PackageBind} {name : String} {v : List Char} (h : b.Tells name v) :
    format.Keeps b.Agrees name v := by
  intro x hfield
  obtain ⟨hx, rfl⟩ := Json.Format.field?_spec hfield
  simp only [format, List.mem_cons, List.not_mem_nil, or_false] at hx
  rcases hx with rfl | rfl | rfl | rfl | rfl | rfl | rfl
  · exact ⟨_, (Json.string_takes h).map _, fun d hd => { hd with appId := by rintro _ ⟨⟩; rfl }⟩
  · exact ⟨_, (Json.string_takes h).map _, fun d hd => { hd with userCode := by rintro _ ⟨⟩; rfl }⟩
  · exact ⟨_, (Json.string_takes h).map _, fun d hd => { hd with deviceCode := by rintro _ ⟨⟩; rfl }⟩
  · exact ⟨_, (Json.string_takes h).map _, fun d hd => { hd with packageId := by rintro _ ⟨⟩; rfl }⟩
  · exact ⟨_, (Json.string_takes h).map _, fun d hd => { hd with packageSource := by rintro _ ⟨⟩; rfl }⟩
  · -- the two codes are told by their digits, not by a spelling
    cases (h : v = _)
    exact ⟨_, (Json.int32_takes b.packageType).map _,
      fun d hd => { hd with packageType := by rintro _ ⟨⟩; rfl }⟩
  · cases (h : v = _)
    have htakes := (Json.int32_takes b.bindType.code).refine (BindType.ofCode_code b.bindType)
    exact ⟨_, htakes.map _, fun d hd => { hd with bindType := by rintro _ ⟨⟩; rfl }⟩

/-- The members of a binding are the fields of its record. -/
theorem names_fields : format.fields.map (·.name) = fieldNames := rfl

/-- An object that has each member of a binding once, with what the binding has there, is decoded. -/
theorem ofJson_of_tells {members : List (String × List Char)} {text : String} {b : PackageBind}
    (h : Json.ObjectText members text.toList)
    (honce : ∀ name ∈ fieldNames, (members.map (·.1)).count name = 1)
    (htells : ∀ m ∈ members, b.Tells m.1 m.2) : ofJson text = .ok b := by
  have hblank : b.Agrees format.blank := by constructor <;> rintro _ ⟨⟩
  have honce' : ∀ x ∈ format.fields, (members.map (·.1)).count x.name = 1 := by
    rwa [← names_fields, List.forall_mem_map] at honce
  exact Json.Format.decode_object lawful_format hblank (fun _ hd => hd.finish) h
    (fun m hm => (htells m hm).keeps) honce'

/-- The members of a binding as they are written. -/
def written (b : PackageBind) : List (String × List Char) := [
  ("appId", Json.writeString b.appId),
  ("userCode", Json.writeString b.userCode),
  ("deviceCode", Json.writeString b.deviceCode),
  ("packageId", Json.writeString b.packageId),
  ("packageSource", Json.writeString b.packageSource),
  ("packageType", Json.writeInteger b.packageType.toInt),
  ("bindType", Json.writeInteger b.bindType.code.toInt)]

/-- **A binding is decoded as it was written.** -/
theorem ofJson_toJson (b : PackageBind) : ofJson b.toJson = .ok b := by
  have hvalues : ∀ m ∈ b.written, Json.WellFormed .value m.2 := by
    simp only [written, List.forall_mem_cons, (Json.spelled_writeString _).wellFormed,
      Json.wellFormed_writeInteger, true_and]
    exact fun _ => nofun
  have htells : ∀ m ∈ b.written, b.Tells m.1 m.2 := by
    simp only [written, List.forall_mem_cons, Tells, Json.spelled_writeString, true_and]
    exact fun _ => nofun
  have hobject : Json.ObjectText b.written b.toJson.toList := by
    rw [toJson, String.toList_ofList]
    exact Json.objectText_writeObject hvalues
  have hnames : b.written.map (·.1) = fieldNames := rfl
  refine ofJson_of_tells hobject ?_ htells
  rw [hnames]
  decide

/-- So it is from the bytes that are sent. -/
theorem ofJson_textOf_toBytes (b : PackageBind) : ofJson (Text.textOf b.toBytes) = .ok b := by
  rw [toBytes, Text.textOf_bytesOf, ofJson_toJson]

/-- **Objects in general**: one that has each member of a binding once is decoded as the binding that its
members tell, in any order and with any white space and members of other names between them; one in which
a member of a binding is missing or given more than once is refused. -/
theorem ofJson_object {members : List (String × List Char)} {text : String}
    (h : Json.ObjectText members text.toList) :
    (∀ b : PackageBind, (∀ name ∈ fieldNames, (members.map (·.1)).count name = 1) →
      (∀ m ∈ members, b.Tells m.1 m.2) → ofJson text = .ok b) ∧
    ∀ name ∈ fieldNames, (members.map (·.1)).count name ≠ 1 → ∃ e, ofJson text = .error e := by
  refine ⟨fun b => ofJson_of_tells h, fun name hname hcount => ?_⟩
  rw [← names_fields] at hname
  obtain ⟨x, hx, rfl⟩ := List.mem_map.mp hname
  cases hdecode : ofJson text with
  | error e => exact ⟨e, rfl⟩
  | ok b => exact absurd (Json.Format.once_of_decode lawful_format h hdecode x hx) hcount

/-- An object with its members in another order, white space, an escape and a member of another name; and
one that lacks members. -/
theorem ofJson_object_permuted :
    ofJson (" \x7b\"bindType\" : 1,\n \"note\":[\x7b\"appId\":null\x7d, -0.5e3], \"packageType\":-7," ++
      "\"packageSource\":\"store\",\"packageId\":\"P1\",\"deviceCode\":\"D1\"," ++
      "\"userCode\":\"\\u00551\",\"appId\":\"app\"\x7d") =
        .ok ⟨"app", "U1", "D1", "P1", "store", -7, .bind⟩ ∧
      ∃ e, ofJson "\x7b\"bindType\":1\x7d" = .error e := by
  open Json in
  have hname (name : String) (h : ∀ c ∈ name.toList, Plain c) : Spells name.toList name.toList :=
    spells_self h
  have hdigit (d : Char) (h : Text.isDigit d = true) : Digits [d] := ⟨by simp, by simpa using h⟩
  have hspace : Spaces [' '] := by decide
  have hempty : Spaces [] := by decide
  -- the values
  have happ : Spelled "app" (quote "app".toList) := ⟨_, hname _ (by simp [Plain]), rfl⟩
  have huser : Spelled "U1" (quote "\\u00551".toList) :=
    ⟨_, .unit (q := ['0', '0', '5', '5']) ⟨_, _, _, _, 0, 0, 5, 5, rfl, rfl, rfl, rfl, rfl, rfl⟩
      (.inl (by decide)) (.plain (by decide) .nil), rfl⟩
  have hdevice : Spelled "D1" (quote "D1".toList) := ⟨_, hname _ (by simp [Plain]), rfl⟩
  have hpackage : Spelled "P1" (quote "P1".toList) := ⟨_, hname _ (by simp [Plain]), rfl⟩
  have hsource : Spelled "store" (quote "store".toList) := ⟨_, hname _ (by simp [Plain]), rfl⟩
  have htype : ['-', '7'] = writeInteger (.negSucc 6) := by rw [writeInteger, Text.digits]; rfl
  have hcode : ['1'] = writeInteger (.ofNat 1) := by rw [writeInteger, Text.digits]; rfl
  have htype' : WellFormed .value ['-', '7'] := htype ▸ wellFormed_writeInteger _
  have hcode' : WellFormed .value ['1'] := hcode ▸ wellFormed_writeInteger _
  have hnote : WellFormed .value "[\x7b\"appId\":null\x7d, -0.5e3]".toList := by
    have hobject := WellFormed.object
      (.member (hname "appId" (by simp [Plain])).inside .null (padded_self _) (named_self _ _))
    have hnumber : WellFormed .value "-0.5e3".toList :=
      .negative ⟨['0'], ['.', '5'], ['e', '3'], ⟨hdigit _ rfl, fun _ => rfl⟩, .some (hdigit _ rfl),
        .some (.inl rfl) (.inl rfl) (hdigit _ rfl), rfl⟩
    exact .list (.items hobject (padded_self _) (.item hnumber ⟨[' '], [], hspace, hempty, rfl⟩))
  -- the objects, each from its last member on
  have hmembers :=
    Members.more (hname "bindType" (by simp [Plain])) hcode' ⟨[' '], [], hspace, hempty, rfl⟩
      ⟨[], [' '], hempty, hspace, rfl⟩ <|
    .more (hname "note" (by simp [Plain])) hnote (padded_self _) ⟨['\n', ' '], [], by decide, hempty, rfl⟩ <|
    .more (hname "packageType" (by simp [Plain])) htype' (padded_self _) ⟨[' '], [], hspace, hempty, rfl⟩ <|
    .more (hname "packageSource" (by simp [Plain])) hsource.wellFormed (padded_self _) (named_self _ _) <|
    .more (hname "packageId" (by simp [Plain])) hpackage.wellFormed (padded_self _) (named_self _ _) <|
    .more (hname "deviceCode" (by simp [Plain])) hdevice.wellFormed (padded_self _) (named_self _ _) <|
    .more (hname "userCode" (by simp [Plain])) huser.wellFormed (padded_self _) (named_self _ _) <|
    .last (hname "appId" (by simp [Plain])) happ.wellFormed (padded_self _) (named_self _ _)
  have hsingle := Members.last (hname "bindType" (by simp [Plain])) hcode' (padded_self _) (named_self _ _)
  refine ⟨(ofJson_object ⟨_, .inr hmembers, [' '], [], hspace, hempty, by simp [quote]⟩).1 _
    (by decide) ?_, (ofJson_object ⟨_, .inr hsingle, [], [], hempty, hempty, by decide⟩).2 "appId"
    (by decide) (by decide)⟩
  simp only [List.forall_mem_cons, Tells]
  exact ⟨hcode, trivial, htype, hsource, hpackage, hdevice, huser, happ, List.forall_mem_nil _⟩

end PackageBind

end KeyedDelivery
