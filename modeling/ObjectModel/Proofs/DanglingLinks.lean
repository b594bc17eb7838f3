import ObjectModel.Proofs.Enumeration
import ObjectModel.Proofs.PrototypeWalk

/-!
# Dangling prototype links

A dangling link ends a chain as a missing one does, with one exception.  The limit of a walk is
tested before the heap is asked for the next object, so a dangling link behind the last object that
the limit admits counts as the start of a longer chain.  That is the only difference between a heap
and the heap in which dangling links are cut (`Heap.cutDangling`): the walks show the same objects
(`Heap.walkFrom_cutDangling`), and they end differently only there (`Heap.DanglesAtLimit`).
-/

namespace ObjectModel

/-- Walks of the same objects stop for the same reason before a link that is live in both heaps or
in neither. -/
theorem Walk.EndsBefore.truncation_eq {heap heap' : Heap} {maxHops : Nat} {w w' : Walk}
    {link : Option ObjectHandle}
    (before : w.EndsBefore heap maxHops link) (before' : w'.EndsBefore heap' maxHops link)
    (handles : w'.handles = w.handles)
    (alike : ∀ h, link = some h → heap.get? h = none → heap'.get? h = none) :
    w'.truncation = w.truncation := by
  have length : w'.visited.length = w.visited.length := by
    simpa [Walk.handles] using congrArg List.length handles
  cases reason : w.truncation with
  | none =>
    rw [before'.complete, length]
    obtain null | ⟨within, h, rfl, missing⟩ := before.complete.1 reason
    · exact .inl null
    · exact .inr ⟨within, h, rfl, alike h rfl missing⟩
  | some reason' =>
    cases reason' with
    | cycleDetected =>
      rw [before'.cycle, handles]
      exact before.cycle.1 reason
    | depthExceeded =>
      rw [before'.limit, length, handles]
      exact before.limit.1 reason

namespace Heap

/-- The object without its prototype link if that leads nowhere. -/
def cutLink (heap : Heap) (o : OrdinaryObject) : OrdinaryObject :=
  { o with prototype := o.prototype.filter heap.contains }

/-- The heap in which every prototype link that leads nowhere is null. -/
def cutDangling (heap : Heap) : Heap :=
  ⟨heap.objects.map heap.cutLink, by simpa using heap.size_le⟩

/-- The walk used up its limit, and the link that it did not follow leads nowhere. -/
def DanglesAtLimit (heap : Heap) (maxHops : Nat) (w : Walk) : Prop :=
  w.visited.length = maxHops + 1 ∧
    ∃ last h, w.visited.getLast? = some last ∧ last.2.prototype = some h ∧ heap.get? h = none

variable {heap : Heap}

/-! ## What cutting keeps -/

@[simp] theorem getOwn?_cutLink (heap : Heap) (o : OrdinaryObject) (key : PropertyKey) :
    (heap.cutLink o).getOwn? key = o.getOwn? key :=
  rfl

@[simp] theorem ownKeys_cutLink (heap : Heap) (o : OrdinaryObject) :
    (heap.cutLink o).ownKeys = o.ownKeys :=
  rfl

@[simp] theorem ownEnumerableKeys_cutLink (heap : Heap) (o : OrdinaryObject) :
    (heap.cutLink o).ownEnumerableKeys = o.ownEnumerableKeys :=
  rfl

@[simp] theorem get?_cutDangling (heap : Heap) (h : ObjectHandle) :
    heap.cutDangling.get? h = (heap.get? h).map heap.cutLink := by
  simp [get?, cutDangling]

theorem filter_contains_of_live {h : ObjectHandle} {o : OrdinaryObject}
    (live : heap.get? h = some o) : (some h).filter heap.contains = some h := by
  simp [(contains_iff heap h).2 ⟨o, live⟩]

theorem filter_contains_of_dangling {h : ObjectHandle} (missing : heap.get? h = none) :
    (some h).filter heap.contains = none := by
  have absent : heap.contains h ≠ true := by
    rw [ne_eq, contains_iff, missing]
    simp
  simp [absent]

/-! ## Walks -/

/-- The objects of a walk with their dangling links cut. -/
def cutVisited (heap : Heap) (visited : List (ObjectHandle × OrdinaryObject)) :
    List (ObjectHandle × OrdinaryObject) :=
  visited.map fun entry => (entry.1, heap.cutLink entry.2)

/-- Without dangling links a walk shows the same objects. -/
theorem walkFrom_cutDangling (heap : Heap) (left : Nat) (seen : List ObjectHandle)
    (link : Option ObjectHandle) :
    (heap.cutDangling.walkFrom (fun _ => false) left seen (link.filter heap.contains)).visited =
      heap.cutVisited (heap.walkFrom (fun _ => false) left seen link).visited := by
  fun_induction walkFrom heap (fun _ => false) left seen link with
  | case1 => simp [walkFrom, cutVisited]
  | case2 left seen h visited =>
    cases live : heap.get? h with
    | none => simp [filter_contains_of_dangling live, walkFrom, cutVisited]
    | some o =>
      unfold walkFrom
      simp [filter_contains_of_live live, cutVisited, visited]
  | case3 seen h fresh =>
    cases live : heap.get? h with
    | none => simp [filter_contains_of_dangling live, walkFrom, cutVisited]
    | some o => simp [filter_contains_of_live live, walkFrom, cutVisited, fresh]
  | case4 seen h fresh left missing =>
    simp [filter_contains_of_dangling missing, walkFrom, cutVisited]
  | case5 seen h fresh left o live stop => cases stop
  | case6 seen h fresh left o live goesOn rest ih =>
    -- the next link is the one of the object after cutting
    have cut : (heap.cutLink o).prototype = o.prototype.filter heap.contains := rfl
    simp [filter_contains_of_live live, walkFrom, fresh, live, cut, cutVisited, ih]
    rfl

section Start

variable {start : ObjectHandle} {o : OrdinaryObject} {maxHops : Nat} {w w' : Walk}

theorem walk_cutDangling (live : heap.get? start = some o)
    (ends : heap.walk start maxHops = .ok w) :
    ∃ w', heap.cutDangling.walk start maxHops = .ok w' ∧
      w'.visited = heap.cutVisited w.visited := by
  have live' : heap.cutDangling.get? start = some (heap.cutLink o) := by simp [live]
  have same := walkFrom_cutDangling heap (maxHops + 1) [] (some start)
  rw [filter_contains_of_live live] at same
  refine ⟨_, walk_eq_walkFrom live' maxHops, ?_⟩
  rw [walk_eq_walkFrom live] at ends
  cases ends
  exact same

theorem handles_cutVisited {w w' : Walk} (cut : w'.visited = heap.cutVisited w.visited) :
    w'.handles = w.handles := by
  simp [Walk.handles, cut, cutVisited]

theorem getLast?_cutVisited {w w' : Walk} (cut : w'.visited = heap.cutVisited w.visited)
    {last : ObjectHandle × OrdinaryObject} (shown : w.visited.getLast? = some last) :
    w'.visited.getLast? = some (last.1, heap.cutLink last.2) := by
  simp [cut, cutVisited, List.getLast?_map, shown]

/-- A walk that stops before a dangling link is cut off exactly if it used up its limit. -/
theorem truncation_of_dangling (ends : heap.walk start maxHops = .ok w)
    {last : ObjectHandle × OrdinaryObject} (shown : w.visited.getLast? = some last)
    {h : ObjectHandle} (link : last.2.prototype = some h) (missing : heap.get? h = none) :
    w.truncation = if w.visited.length = maxHops + 1 then some .depthExceeded else none := by
  have before := walk_endsBefore ends shown
  have fresh : h ∉ w.handles := by
    intro visited
    obtain ⟨o, present⟩ := (contains_iff heap h).1 (walk_contains ends visited)
    cases missing.symm.trans present
  have most : w.visited.length ≤ maxHops + 1 := by
    obtain ⟨-, rfl⟩ := walk_inv ends
    exact length_walkFrom_le heap _ _ _ _
  split
  · next full => exact before.limit.2 ⟨full, h, link, fresh⟩
  · next notFull => exact before.complete.2 (.inr ⟨by omega, h, link, missing⟩)

/-- The two walks end for the same reason, unless the limit is reached before a dangling link. -/
theorem truncation_cutDangling (ends : heap.walk start maxHops = .ok w)
    (ends' : heap.cutDangling.walk start maxHops = .ok w')
    (cut : w'.visited = heap.cutVisited w.visited) :
    (heap.DanglesAtLimit maxHops w → w.truncation = some .depthExceeded ∧ w'.truncation = none) ∧
      (¬ heap.DanglesAtLimit maxHops w → w'.truncation = w.truncation) := by
  obtain ⟨last, shown⟩ := walk_last ends
  have before' := walk_endsBefore ends' (getLast?_cutVisited cut shown)
  have link' : (heap.cutLink last.2).prototype = last.2.prototype.filter heap.contains := rfl
  dsimp only at before'
  rw [link'] at before'
  by_cases dangling : ∃ h, last.2.prototype = some h ∧ heap.get? h = none
  · obtain ⟨h, link, missing⟩ := dangling
    rw [link, filter_contains_of_dangling missing] at before'
    have complete' := before'.complete.2 (.inl rfl)
    rw [complete', truncation_of_dangling ends shown link missing]
    constructor
    · rintro ⟨full, -⟩
      simp [full]
    · intro within
      have notFull : w.visited.length ≠ maxHops + 1 :=
        fun full => within ⟨full, last, h, shown, link, missing⟩
      simp [notFull]
  · have noDangle : ¬ heap.DanglesAtLimit maxHops w := by
      rintro ⟨-, last', h, shown', link, missing⟩
      cases shown.symm.trans shown'
      exact dangling ⟨h, link, missing⟩
    have kept : last.2.prototype.filter heap.contains = last.2.prototype := by
      cases link : last.2.prototype with
      | none => rfl
      | some h =>
        cases live : heap.get? h with
        | none => exact absurd ⟨h, link, live⟩ dangling
        | some o => exact filter_contains_of_live live
    rw [kept] at before'
    refine ⟨fun dangles => absurd dangles noDangle, fun _ => ?_⟩
    refine (walk_endsBefore ends shown).truncation_eq before' (handles_cutVisited cut) ?_
    intro h _ missing
    simp [missing]

/-! ## Searches and enumerations -/

theorem nearest?_cutVisited (heap : Heap) (key : PropertyKey)
    (visited : List (ObjectHandle × OrdinaryObject)) :
    Walk.nearest? key (heap.cutVisited visited) = Walk.nearest? key visited := by
  simp [Walk.nearest?, cutVisited, List.findSome?_map, Function.comp_def]

theorem keysOf_cutVisited (heap : Heap) (seen : List PropertyKey)
    (visited : List (ObjectHandle × OrdinaryObject)) :
    Enumeration.keysOf seen ((heap.cutVisited visited).map Prod.snd) =
      Enumeration.keysOf seen (visited.map Prod.snd) := by
  induction visited generalizing seen with
  | nil => rfl
  | cons entry rest ih => simpa [cutVisited, Enumeration.keysOf] using ih _

/-- A dangling prototype link does what a null one does as long as the limit is not reached.
Cutting all dangling links changes neither the objects of a walk nor what is found or enumerated,
and it changes how the walk ends only where the limit is used up before such a link: there the walk
counts as cut off. -/
theorem dangling_link_ends_walk_within_limit (live : heap.get? start = some o) (maxHops : Nat) :
    ∃ w w', heap.walk start maxHops = .ok w ∧ heap.cutDangling.walk start maxHops = .ok w' ∧
      w'.handles = w.handles ∧
      (heap.DanglesAtLimit maxHops w →
        w.truncation = some .depthExceeded ∧ w'.truncation = none) ∧
      (¬ heap.DanglesAtLimit maxHops w → w'.truncation = w.truncation) ∧
      (∀ key, ∃ lookup lookup', heap.findProperty start key maxHops = .ok lookup ∧
        heap.cutDangling.findProperty start key maxHops = .ok lookup' ∧
        lookup'.found = lookup.found ∧
        (lookup'.truncation ≠ lookup.truncation ↔
          lookup.found = none ∧ heap.DanglesAtLimit maxHops w)) ∧
      ∃ e e', heap.enumerateKeys start maxHops = .ok e ∧
        heap.cutDangling.enumerateKeys start maxHops = .ok e' ∧ e'.keys = e.keys ∧
        (e'.truncation ≠ e.truncation ↔ heap.DanglesAtLimit maxHops w) := by
  have ends := walk_eq_walkFrom live maxHops
  generalize heap.walkFrom (fun _ => false) (maxHops + 1) [] (some start) = w at ends
  obtain ⟨w', ends', cut⟩ := walk_cutDangling live ends
  obtain ⟨atLimit, within⟩ := truncation_cutDangling ends ends' cut
  have differs : w'.truncation ≠ w.truncation ↔ heap.DanglesAtLimit maxHops w := by
    constructor
    · exact fun differs => Classical.byContradiction fun noDangle => differs (within noDangle)
    · intro dangles
      obtain ⟨limit, complete⟩ := atLimit dangles
      simp [limit, complete]
  refine ⟨w, w', ends, ends', handles_cutVisited cut, atLimit, within, ?_, ?_⟩
  · intro key
    obtain ⟨t, answer, uncut, missed⟩ := findProperty_of_walk ends key
    obtain ⟨t', answer', uncut', missed'⟩ := findProperty_of_walk ends' key
    rw [cut, nearest?_cutVisited] at answer' uncut' missed'
    refine ⟨_, _, answer, answer', rfl, ?_⟩
    by_cases found : Walk.nearest? key w.visited = none
    · simp only [missed found, missed' found, found, true_and]
      exact differs
    · simp [uncut found, uncut' found, found]
  · refine ⟨_, _, enumerateKeys_of_walk ends, enumerateKeys_of_walk ends', ?_, differs⟩
    rw [cut]
    exact keysOf_cutVisited heap [] w.visited

/-- A chain of two objects with a dangling link behind them, with room for one object more and with
room for none. -/
theorem dangling_link_behind_two_objects :
    let heap : Heap := ⟨#[{ prototype := some ⟨1⟩ }, { prototype := some ⟨9⟩ }], by decide⟩
    (∃ w w', heap.walk ⟨0⟩ 2 = .ok w ∧ heap.cutDangling.walk ⟨0⟩ 2 = .ok w' ∧
      w.handles = [⟨0⟩, ⟨1⟩] ∧ w'.handles = [⟨0⟩, ⟨1⟩] ∧ w'.truncation = w.truncation) ∧
    ∃ w w', heap.walk ⟨0⟩ 1 = .ok w ∧ heap.cutDangling.walk ⟨0⟩ 1 = .ok w' ∧
      w'.handles = [⟨0⟩, ⟨1⟩] ∧ w.truncation = some .depthExceeded ∧ w'.truncation = none := by
  intro heap
  have live : heap.get? ⟨0⟩ = some { prototype := some ⟨1⟩ } := rfl
  constructor
  · obtain ⟨w, w', ends, ends', handles, -, within, -⟩ :=
      dangling_link_ends_walk_within_limit live 2
    have room : ¬ heap.DanglesAtLimit 2 w := by
      cases ends
      rintro ⟨⟨⟩, -⟩
    have same := within room
    cases ends
    exact ⟨_, w', rfl, ends', rfl, handles, same⟩
  · obtain ⟨w, w', ends, ends', handles, atLimit, -⟩ :=
      dangling_link_ends_walk_within_limit live 1
    have dangles : heap.DanglesAtLimit 1 w := by
      cases ends
      exact ⟨rfl, _, ⟨9⟩, rfl, rfl, rfl⟩
    obtain ⟨limit, complete⟩ := atLimit dangles
    cases ends
    exact ⟨_, w', rfl, ends', handles, limit, complete⟩

/-- With a limit of one link, a chain of two objects ends in another way if the link behind them
dangles than if it is null. -/
theorem dangling_link_at_limit_unlike_null :
    let heap : Heap := ⟨#[{ prototype := some ⟨1⟩ }, { prototype := some ⟨9⟩ }], by decide⟩
    (∃ w, heap.walk ⟨0⟩ 1 = .ok w ∧ w.truncation = some .depthExceeded) ∧
      ∃ w, heap.cutDangling.walk ⟨0⟩ 1 = .ok w ∧ w.truncation = none := by
  intro heap
  have live : heap.get? ⟨0⟩ = some { prototype := some ⟨1⟩ } := rfl
  have ends := walk_eq_walkFrom live 1
  obtain ⟨w', ends', cut⟩ := walk_cutDangling live ends
  obtain ⟨limit, complete⟩ :=
    (truncation_cutDangling ends ends' cut).1 ⟨rfl, _, ⟨9⟩, rfl, rfl, rfl⟩
  exact ⟨⟨_, ends, limit⟩, ⟨w', ends', complete⟩⟩

end Start

end Heap

end ObjectModel
