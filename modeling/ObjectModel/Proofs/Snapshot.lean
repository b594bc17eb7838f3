import ObjectModel.Codec.Object
import ObjectModel.Proofs.JsonText
import ObjectModel.Proofs.OrderedMap
import ObjectModel.Proofs.Permanence

/-!
# Snapshots of heaps

The text of a heap is read back as the heap up to its numbers: each number becomes what its own
numeral is read as, and if one of them has none the whole heap has none (`Heap.restore?_eq`).  So a
heap comes back as it is if its numbers do, and a heap that holds an infinity or a not-a-number does
not come back at all.  The latter is so in every reachable realm, because the global object keeps
the constants `NaN` and `Infinity`.
-/

namespace ObjectModel

/-! ## What is read back -/

/-- The double that the numeral of a double is read as. -/
def Double.readBack? (x : Double) : Option Double := x.toJsonNumeral?.bind Numeral.toDouble?

/-- The value with its number read back. -/
def Value.readBack? : Value → Option Value
  | number x => x.readBack?.map number
  | v => some v

def PropertyDescriptor.readBack? : PropertyDescriptor → Option PropertyDescriptor
  | data value writable enumerable configurable =>
    value.readBack?.map (data · writable enumerable configurable)
  | p => some p

def PropertyTable.readBack? (t : PropertyTable) : Option PropertyTable :=
  (t.entries.mapM fun e => (PropertyDescriptor.readBack? e.2).map (e.1, ·)).map OrderedMap.ofList

def OrdinaryObject.readBack? (o : OrdinaryObject) : Option OrdinaryObject :=
  (PropertyTable.readBack? o.properties).map fun properties => { o with properties }

def Heap.readBack? (heap : Heap) : Option Heap :=
  (heap.objects.toList.mapM OrdinaryObject.readBack?).bind Heap.ofList?

/-- The heap that the text of a heap is read as. -/
def Heap.restore? (heap : Heap) : Option Heap :=
  (Json.read? heap.toJson.render).bind (Heap.decode .root)

/-! ## Texts of heaps -/

theorem ObjectHandle.toJson_wellFormed (h : ObjectHandle) : h.toJson.WellFormed :=
  .number (Numeral.ofNat_wellFormed _)

theorem Value.toJson_wellFormed (v : Value) : v.toJson.WellFormed := by
  cases v <;> apply Json.wellFormed_record <;> simp [ObjectHandle.toJson_wellFormed]

theorem PropertyDescriptor.toJson_wellFormed (p : PropertyDescriptor) : p.toJson.WellFormed := by
  cases p <;> apply Json.wellFormed_record <;>
    simp [Value.toJson_wellFormed, Json.wellFormed_ofOption ObjectHandle.toJson_wellFormed]

theorem PropertyTable.toJson_wellFormed (t : PropertyTable) : (toJson t).WellFormed := by
  apply Json.wellFormed_record
  simp only [List.forall_mem_map]
  exact fun e _ => e.2.toJson_wellFormed

theorem OrdinaryObject.toJson_wellFormed (o : OrdinaryObject) : o.toJson.WellFormed := by
  apply Json.wellFormed_record
  simp [PropertyTable.toJson_wellFormed, Json.wellFormed_ofOption ObjectHandle.toJson_wellFormed,
    Json.wellFormed_ofOption Json.wellFormed_ofString]

theorem Heap.toJson_wellFormed (heap : Heap) : heap.toJson.WellFormed := by
  apply Json.wellFormed_record
  simp [Json.wellFormed_ofList OrdinaryObject.toJson_wellFormed]

/-! ## Decoding -/

namespace Json

@[simp] theorem isHoldable_record (depth : Nat) (members : List (String × Json)) :
    isHoldable depth (record members) =
      (decide (depth < depthLimit) && members.all fun m => isHoldable (depth + 1) m.2) := by
  rw [record, isHoldable]
  congr 1
  induction members with
  | nil => rfl
  | cons m members ih =>
    rw [List.map_cons, membersAreHoldable, ih]
    rfl

@[simp] theorem isHoldable_ofString (depth : Nat) (s : String) :
    isHoldable depth (ofString s) = true :=
  rfl

@[simp] theorem isHoldable_bool (depth : Nat) (b : Bool) : isHoldable depth (bool b) = true := rfl

theorem tagged?_of_not_held {tag : String} {names : List String} {p : Place} {j : Json}
    (notHeld : (p.held || isHoldable p.depth j) = false) : tagged? tag names p j = none := by
  unfold tagged?
  rw [notHeld]
  rfl

theorem namedMembers?_record (members : List (String × Json)) :
    namedMembers? (members.map fun (name, j) => (some name, j)) = some members := by
  rw [namedMembers?, List.mapM_map]
  exact List.mapM_pure.trans (congrArg some (List.map_id _))

theorem toDouble?_ofDouble (x : Double) (p : Place) : toDouble? p (ofDouble x) = x.readBack? := by
  unfold ofDouble Double.readBack?
  cases x.toJsonNumeral? <;> rfl

theorem isHoldable_ofDouble {x y : Double} (read : x.readBack? = some y) (depth : Nat) :
    isHoldable depth (ofDouble x) = true := by
  obtain ⟨n, written, read⟩ := Option.bind_eq_some_iff.1 read
  rw [ofDouble, written]
  show n.toDouble?.isSome = true
  rw [read]
  rfl

end Json

namespace ObjectHandle

theorem decode_toJson (h : ObjectHandle) (p : Json.Place) : decode p h.toJson = some h := by
  have numeral : (Numeral.ofNat h.index.toNat).toNat? = some h.index.toNat :=
    Numeral.toNat?_ofNat (Nat.lt_trans h.index.toNat_lt (by decide))
  show (((Numeral.ofNat h.index.toNat).toNat?.filter (· < 2 ^ 32)).map UInt32.ofNat).map mk = _
  rw [numeral, Option.filter_some, if_pos (decide_eq_true h.index.toNat_lt)]
  simp

theorem isHoldable_toJson (h : ObjectHandle) (depth : Nat) :
    Json.isHoldable depth h.toJson = true :=
  Numeral.toDouble?_ofNat (Nat.lt_trans h.index.toNat_lt (by decide))

theorem isHoldable_option (h? : Option ObjectHandle) (depth : Nat) :
    Json.isHoldable depth (.ofOption toJson h?) = true := by
  cases h? with
  | none => rfl
  | some h => exact h.isHoldable_toJson depth

theorem nullable_toJson (h? : Option ObjectHandle) (p : Json.Place) :
    Json.toOption? decode p (.ofOption toJson h?) = some h? := by
  cases h? with
  | none => rfl
  | some h =>
    show (decode p h.toJson).map some = _
    rw [decode_toJson, Option.map_some]

end ObjectHandle

theorem Value.decode_toJson (v : Value) (p : Json.Place) : decode p v.toJson = v.readBack? := by
  cases v with
  | undefined | null | bool | string => rfl
  | number x =>
    show (Json.toDouble? p.inner (.ofDouble x)).map number = _
    rw [Json.toDouble?_ofDouble]
    rfl
  | object h =>
    show (ObjectHandle.decode p.inner h.toJson).map object = _
    rw [ObjectHandle.decode_toJson]
    rfl

theorem Value.isHoldable_toJson {v v' : Value} (read : v.readBack? = some v') {depth : Nat}
    (shallow : depth < Json.depthLimit) : Json.isHoldable depth v.toJson = true := by
  cases v with
  | number x =>
    obtain ⟨y, read, -⟩ := Option.map_eq_some_iff.1 read
    simp [toJson, shallow, Json.isHoldable_ofDouble read]
  | undefined | null | bool | string =>
    simp [toJson, shallow]
  | object h =>
    simp [toJson, shallow, h.isHoldable_toJson]

namespace PropertyDescriptor

theorem decode_data {p : Json.Place} {v : Value} {w e c : Bool}
    (held : (p.held || Json.isHoldable p.depth (data v w e c).toJson) = true) :
    decode p (data v w e c).toJson = v.readBack?.map (data · w e c) := by
  have tagged : Json.tagged? "kind" ["data", "accessor"] p (data v w e c).toJson =
      some ("data", p.hold, .record [("value", v.toJson), ("writable", .bool w),
        ("enumerable", .bool e), ("configurable", .bool c)]) := by
    unfold Json.tagged?
    rw [held]
    rfl
  rw [decode, tagged]
  -- all fields but the value are plain and read as they are
  show (Value.decode p.hold.inner v.toJson).bind (fun v' => some (data v' w e c)) = _
  rw [Value.decode_toJson, Option.map_eq_bind]
  rfl

theorem decode_accessor {p : Json.Place} {g s : Option ObjectHandle} {e c : Bool}
    (held : (p.held || Json.isHoldable p.depth (accessor g s e c).toJson) = true) :
    decode p (accessor g s e c).toJson = some (accessor g s e c) := by
  have tagged : Json.tagged? "kind" ["data", "accessor"] p (accessor g s e c).toJson =
      some ("accessor", p.hold, .record [("get", .ofOption ObjectHandle.toJson g),
        ("set", .ofOption ObjectHandle.toJson s), ("enumerable", .bool e),
        ("configurable", .bool c)]) := by
    unfold Json.tagged?
    rw [held]
    rfl
  rw [decode, tagged]
  show (Json.toOption? ObjectHandle.decode _ (.ofOption ObjectHandle.toJson g)).bind (fun g' =>
    (Json.toOption? ObjectHandle.decode _ (.ofOption ObjectHandle.toJson s)).bind fun s' =>
      some (accessor g' s' e c)) = _
  rw [ObjectHandle.nullable_toJson, ObjectHandle.nullable_toJson]
  rfl

theorem isHoldable_toJson {p p' : PropertyDescriptor} (read : p.readBack? = some p') {depth : Nat}
    (shallow : depth + 1 < Json.depthLimit) : Json.isHoldable depth p.toJson = true := by
  have shallow' : depth < Json.depthLimit := by omega
  cases p with
  | data v w e c =>
    obtain ⟨v', read, -⟩ := Option.map_eq_some_iff.1 read
    simp [toJson, shallow', Value.isHoldable_toJson read shallow]
  | accessor g s e c =>
    simp [toJson, shallow', ObjectHandle.isHoldable_option]

/-- A tagged record is held before it is read, and held are only numbers that have a double. -/
theorem decode_toJson (d : PropertyDescriptor) {p : Json.Place}
    (shallow : p.depth + 1 < Json.depthLimit) : decode p d.toJson = d.readBack? := by
  cases held : p.held || Json.isHoldable p.depth d.toJson with
  | true =>
    cases d with
    | data v w e c => exact decode_data held
    | accessor g s e c => exact decode_accessor held
  | false =>
    -- what cannot be held is not read back either
    have refused : d.readBack? = none := by
      rw [Option.eq_none_iff_forall_ne_some]
      intro d' read
      rw [isHoldable_toJson read shallow, Bool.or_true] at held
      cases held
    rw [refused, decode, Json.tagged?_of_not_held held]
    rfl

end PropertyDescriptor

theorem PropertyTable.decode_toJson (t : PropertyTable) {p : Json.Place}
    (shallow : p.depth + 2 < Json.depthLimit) : decode p (toJson t) = t.readBack? := by
  have each : ∀ e : PropertyKey × PropertyDescriptor,
      (PropertyDescriptor.decode p.inner e.2.toJson).map (PropertyKey.mk e.1.text, ·) =
        e.2.readBack?.map (e.1, ·) := by
    intro e
    rw [PropertyDescriptor.decode_toJson e.2 shallow]
  unfold decode toJson readBack?
  simp only [Json.record]
  rw [Json.namedMembers?_record, Option.bind_eq_bind, Option.bind_some, List.mapM_map,
    Option.map_eq_bind]
  simp only [Function.comp_def, each]
  rfl

theorem OrdinaryObject.decode_toJson (o : OrdinaryObject) {p : Json.Place}
    (shallow : p.depth + 3 < Json.depthLimit) : decode p o.toJson = o.readBack? := by
  have classTag : Json.toOption? Json.toText? p.inner (.ofOption .ofString o.classTag) =
      some o.classTag := by
    cases o.classTag <;> rfl
  show (Json.toOption? ObjectHandle.decode p.inner (.ofOption ObjectHandle.toJson o.prototype)).bind
    (fun prototype => (PropertyTable.decode p.inner (PropertyTable.toJson o.properties)).bind
      fun properties => (Json.toOption? Json.toText? p.inner (.ofOption .ofString o.classTag)).bind
        fun classTag => some { o with prototype, properties, classTag }) = _
  rw [ObjectHandle.nullable_toJson, Option.bind_some, PropertyTable.decode_toJson _ shallow,
    classTag, readBack?, Option.map_eq_bind]
  rfl

theorem Heap.decode_toJson (heap : Heap) : decode .root heap.toJson = heap.readBack? := by
  show ((heap.objects.toList.map OrdinaryObject.toJson).mapM
    (OrdinaryObject.decode ⟨2, false⟩)).bind ofList? = _
  rw [List.mapM_map, readBack?]
  congr
  funext o
  exact o.decode_toJson (by decide)

/-- Reading a heap back from its text is reading back its numbers. -/
theorem Heap.restore?_eq (heap : Heap) : heap.restore? = heap.readBack? := by
  rw [restore?, Json.read?_render heap.toJson_wellFormed, Option.bind_some, decode_toJson]

/-! ## Numbers that come back -/

section MapM

variable {α β : Type} {f : α → Option β}

theorem mapM_eq_self {f : α → Option α} {as : List α} (same : ∀ a ∈ as, f a = some a) :
    as.mapM f = some as := by
  induction as with
  | nil => rfl
  | cons a as ih =>
    rw [List.mapM_cons, same a List.mem_cons_self,
      ih fun b member => same b (List.mem_cons_of_mem a member)]
    rfl

theorem mapM_eq_none {as : List α} {a : α} (member : a ∈ as) (refused : f a = none) :
    as.mapM f = none := by
  induction as with
  | nil => cases member
  | cons b as ih =>
    rw [List.mapM_cons]
    obtain rfl | member := List.mem_cons.1 member
    · rw [refused]
      rfl
    · rw [ih member]
      cases f b <;> rfl

end MapM

theorem Value.readBack?_eq_self {v : Value} (same : ∀ x, v = .number x → x.readBack? = some x) :
    v.readBack? = some v := by
  cases v with
  | undefined | null | bool | string | object => rfl
  | number x => rw [readBack?, same x rfl, Option.map_some]

namespace PropertyDescriptor

variable {p : PropertyDescriptor}

theorem readBack?_eq_self
    (same : ∀ x, p.value? = some (.number x) → x.readBack? = some x) : p.readBack? = some p := by
  cases p with
  | accessor => rfl
  | data v w e c =>
    have value : v.readBack? = some v := v.readBack?_eq_self fun x held => same x (held ▸ rfl)
    rw [readBack?, value, Option.map_some]

theorem readBack?_eq_none {x : Double} (held : p.value? = some (.number x))
    (refused : x.readBack? = none) : p.readBack? = none := by
  cases p with
  | accessor => cases held
  | data v w e c =>
    cases held
    rw [readBack?, Value.readBack?, refused, Option.map_none, Option.map_none]

end PropertyDescriptor

/-- Some property of the heap holds the value. -/
def Heap.Holds (heap : Heap) (v : Value) : Prop :=
  ∃ h o key p, heap.get? h = some o ∧ o.getOwn? key = some p ∧ p.value? = some v

namespace Heap

variable {heap : Heap}

theorem get?_of_mem {o : OrdinaryObject} (member : o ∈ heap.objects.toList) :
    ∃ h, heap.get? h = some o := by
  obtain ⟨i, bound, rfl⟩ := List.getElem_of_mem member
  rw [Array.length_toList] at bound
  have small := Nat.lt_of_lt_of_le bound heap.size_le
  refine ⟨⟨UInt32.ofNat i⟩, ?_⟩
  rw [get?, UInt32.toNat_ofNat_of_lt' small, Array.getElem?_eq_getElem bound, Array.getElem_toList]

theorem ofList?_objects (heap : Heap) : ofList? heap.objects.toList = some heap := by
  rw [ofList?, dif_pos (by rw [Array.length_toList]; exact heap.size_le)]

/-- A heap is read back as it is if its numbers are. -/
theorem readBack?_eq_self (same : ∀ x, heap.Holds (.number x) → x.readBack? = some x) :
    heap.readBack? = some heap := by
  rw [readBack?, mapM_eq_self, Option.bind_some, ofList?_objects]
  intro o member
  obtain ⟨h, live⟩ := get?_of_mem member
  have entries : o.properties.entries.mapM (fun e => (e.2.readBack?).map (e.1, ·)) =
      some o.properties.entries := by
    apply mapM_eq_self
    rintro ⟨key, p⟩ member
    have owned : o.getOwn? key = some p := (OrderedMap.get?_eq_some_iff_mem ..).2 member
    rw [p.readBack?_eq_self fun x held => same x ⟨h, o, key, p, live, owned, held⟩,
      Option.map_some]
  -- the entries have no key twice, so inserting them one after the other makes the same table
  rw [OrdinaryObject.readBack?, PropertyTable.readBack?, entries, Option.map_some,
    OrderedMap.ofList_entries, Option.map_some]

/-- A heap is not read back if one of its numbers is not. -/
theorem readBack?_eq_none {x : Double} (holds : heap.Holds (.number x))
    (refused : x.readBack? = none) : heap.readBack? = none := by
  obtain ⟨h, o, key, p, live, owned, held⟩ := holds
  have entry : (key, p) ∈ o.properties.entries := (OrderedMap.get?_eq_some_iff_mem ..).1 owned
  have object : o ∈ heap.objects.toList := Array.mem_toList_iff.2 (Array.mem_of_getElem? live)
  have refused := PropertyDescriptor.readBack?_eq_none held refused
  have refused : o.readBack? = none := by
    rw [OrdinaryObject.readBack?, PropertyTable.readBack?, mapM_eq_none entry, Option.map_none,
      Option.map_none]
    rw [refused, Option.map_none]
  rw [readBack?, mapM_eq_none object refused, Option.bind_none]

end Heap

theorem Double.readBack?_of_not_finite {x : Double} (notFinite : x.isFinite = false) :
    x.readBack? = none := by
  have noNumeral : x.toJsonNumeral? = none := by
    unfold toJsonNumeral?
    split
    · next parts =>
      rw [finite_of_parts parts] at notFinite
      cases notFinite
    · rfl
  rw [readBack?, noNumeral]
  rfl

namespace Realm

variable {β : Type} {r : Realm β}

/-- The constants of the global object are in every reachable heap. -/
theorem Reachable.holds_globalConstants (reachable : r.Reachable) :
    ∀ c ∈ Intrinsics.globalConstants, r.heap.Holds c.2 := by
  intro c member
  obtain ⟨config, start, valid, reaches⟩ := reachable
  obtain rfl := ofConfig_of_withConfig valid
  obtain ⟨o, live, owned⟩ := Option.bind_eq_some_iff.1 (global_constants_owned c member)
  obtain ⟨o', p, live', owned', persists⟩ := reaches.persists live owned rfl
  exact ⟨_, o', _, p, live', owned', persists.value rfl⟩

theorem Reachable.restore?_eq_none (reachable : r.Reachable) : r.heap.restore? = none := by
  have nan := reachable.holds_globalConstants ("NaN", .number .nan) (by decide)
  rw [Heap.restore?_eq, Heap.readBack?_eq_none nan (Double.readBack?_of_not_finite (by decide))]

/-- A heap whose finite numbers are read as they are written comes back from its text exactly if all
its numbers are finite; a heap with another number comes back as no heap.  In every reachable realm
the heap has such numbers, so no realm's heap comes back. -/
theorem snapshot_restored_iff_finite :
    (∀ heap : Heap,
      (∀ x, heap.Holds (.number x) → x.isFinite = true → x.readBack? = some x) →
        (heap.restore? = some heap ↔ ∀ x, heap.Holds (.number x) → x.isFinite = true)) ∧
      (∀ (heap : Heap) (x : Double), heap.Holds (.number x) → x.isFinite = false →
        heap.restore? = none) ∧
      ∀ r : Realm β, r.Reachable →
        r.heap.Holds (.number .nan) ∧ r.heap.Holds (.number (.infinity false)) ∧
          r.heap.restore? = none := by
  have lost : ∀ (heap : Heap) (x : Double), heap.Holds (.number x) → x.isFinite = false →
      heap.restore? = none := by
    intro heap x holds notFinite
    rw [Heap.restore?_eq, Heap.readBack?_eq_none holds (Double.readBack?_of_not_finite notFinite)]
  refine ⟨?_, lost, ?_⟩
  · intro heap same
    constructor
    · intro restored x holds
      by_contra notFinite
      rw [lost heap x holds (Bool.eq_false_iff.2 notFinite)] at restored
      cases restored
    · intro finite
      rw [Heap.restore?_eq]
      exact Heap.readBack?_eq_self fun x holds => same x holds (finite x holds)
  · intro r reachable
    have held := reachable.holds_globalConstants
    exact ⟨held ("NaN", .number .nan) (by decide),
      held ("Infinity", .number (.infinity false)) (by decide), reachable.restore?_eq_none⟩

/-- An object with a number that comes back, and the heap of a new realm, which does not. -/
theorem snapshot_of_one_number :
    let o : OrdinaryObject :=
      { properties := .ofList [(⟨"x"⟩, .openData (.number (.ofNat 1)))] }
    let heap : Heap := ⟨#[o], by decide⟩
    heap.restore? = some heap ∧ Intrinsics.heap.restore? = none ∧
      (ofConfig {} : Realm Unit).heap.restore? = none := by
  intro o heap
  obtain ⟨restored, lost, unrestored⟩ := snapshot_restored_iff_finite (β := Unit)
  have one : ∀ x, heap.Holds (.number x) → x = .ofNat 1 := by
    rintro x ⟨h, o', key, p, live, owned, held⟩
    have member : o' ∈ #[o] := Array.mem_of_getElem? live
    obtain rfl := Array.mem_singleton.1 member
    have entry := (OrderedMap.get?_eq_some_iff_mem ..).1 owned
    obtain ⟨-, rfl⟩ := Prod.mk.inj (List.mem_singleton.1 entry)
    cases held
    rfl
  refine ⟨(restored heap ?_).2 ?_, lost _ .nan ⟨⟨4⟩, _, ⟨"NaN"⟩, _, rfl, rfl, rfl⟩ (by decide),
    (unrestored _ ⟨{}, ofConfig {}, rfl, .refl⟩).2.2⟩
  · intro x holds _
    rw [one x holds]
    decide +kernel
  · intro x holds
    rw [one x holds]
    decide

/-- A new realm is reachable and its heap does not come back. -/
theorem new_realm_not_restored :
    (ofConfig {} : Realm Unit).Reachable ∧ (ofConfig {} : Realm Unit).heap.restore? = none := by
  have reachable : (ofConfig {} : Realm Unit).Reachable := ⟨{}, ofConfig {}, rfl, .refl⟩
  exact ⟨reachable, reachable.restore?_eq_none⟩

end Realm

end ObjectModel
