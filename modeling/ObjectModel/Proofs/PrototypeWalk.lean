import Mathlib.Data.List.Nodup
import Mathlib.Data.List.Perm.Subperm
import ObjectModel.Proofs.Chain

/-!
# The shape of a walk

A walk shows the part of a chain that is within its limit and not a repetition.  What carries this
file is the last link, the one that the walk did not follow: `Heap.Stops` says for what reasons a
walk stops at a link, and `Heap.walkFrom_stops` that the last link of a walk is one to stop at, for
the reason that the walk states.

A walk can also be taken one object at a time, by an iterator with a hop counter of 32 bits
(`PrototypeWalk`).  It shows the same objects and comes to its end after at most as many calls as
the heap has objects, and one more, whatever the limit is (`PrototypeWalk.take_eq_walkFrom`), since
each object that it shows is one that it has not shown before.
-/

namespace ObjectModel

/-! ## Why a walk stops -/

/-- The reasons to stop at a link, for a walk that may visit `left` more objects.  The order of the
tests is the order of the constructors. -/
inductive Heap.Stops (heap : Heap) (left : Nat) (seen : List ObjectHandle) :
    Option ObjectHandle → Option WalkTruncation → Prop where
  | null : Stops heap left seen none none
  | cycle {h} (visited : h ∈ seen) : Stops heap left seen (some h) (some .cycleDetected)
  | limit {h} (fresh : h ∉ seen) (used : left = 0) :
    Stops heap left seen (some h) (some .depthExceeded)
  | dangling {h} (fresh : h ∉ seen) (room : 0 < left) (missing : heap.get? h = none) :
    Stops heap left seen (some h) none

namespace Walk

/-- The link behind the last object of a walk that came along `link`. -/
def linkAfter (link : Option ObjectHandle) (visited : List (ObjectHandle × OrdinaryObject)) :
    Option ObjectHandle :=
  visited.foldl (fun _ entry => entry.2.prototype) link

theorem linkAfter_of_getLast? {visited : List (ObjectHandle × OrdinaryObject)}
    {last : ObjectHandle × OrdinaryObject} (ends : visited.getLast? = some last)
    (link : Option ObjectHandle) : linkAfter link visited = last.2.prototype := by
  obtain ⟨before, rfl⟩ := List.getLast?_eq_some_iff.1 ends
  simp [linkAfter]

end Walk

namespace Heap

variable {heap : Heap}

theorem walkFrom_stops (heap : Heap) (left : Nat) (seen : List ObjectHandle)
    (link : Option ObjectHandle) :
    let w := heap.walkFrom (fun _ => false) left seen link
    heap.Stops (left - w.visited.length) (w.handles.reverse ++ seen)
      (Walk.linkAfter link w.visited) w.truncation := by
  fun_induction walkFrom heap (fun _ => false) left seen link with
  | case1 => exact .null
  | case2 left seen h visited => exact .cycle visited
  | case3 seen h fresh => exact .limit fresh rfl
  | case4 seen h fresh left missing => exact .dangling fresh (Nat.succ_pos left) missing
  | case5 seen h fresh left o live stop => cases stop
  | case6 seen h fresh left o live goesOn rest ih =>
    -- the rest of the walk has one object fewer to visit and one more behind it
    simpa [Walk.handles, Walk.linkAfter] using ih

theorem length_walkFrom_le (heap : Heap) (stop : OrdinaryObject → Bool) (left : Nat)
    (seen : List ObjectHandle) (link : Option ObjectHandle) :
    (heap.walkFrom stop left seen link).visited.length ≤ left := by
  fun_induction walkFrom heap stop left seen link with
  | case1 | case2 | case3 | case4 => simp
  | case5 => simp
  | case6 seen h fresh left o live goesOn rest ih => simpa using ih

/-- The objects of a walk are linked, the first by the link that the walk came along. -/
theorem walkFrom_linked (heap : Heap) (stop : OrdinaryObject → Bool) (left : Nat)
    (seen : List ObjectHandle) (link : Option ObjectHandle) :
    let w := heap.walkFrom stop left seen link
    (∀ entry ∈ w.visited.head?, link = some entry.1) ∧
      w.visited.IsChain fun a b => a.2.prototype = some b.1 := by
  fun_induction walkFrom heap stop left seen link with
  | case1 | case2 | case3 | case4 => simp
  | case5 => simp
  | case6 seen h fresh left o live goesOn rest ih =>
    obtain ⟨first, linked⟩ := ih
    refine ⟨by simp, ?_⟩
    cases shown : rest.visited with
    | nil => exact .singleton _
    | cons next others =>
      rw [shown] at first linked
      exact .cons_cons (first next rfl) linked

/-- A higher limit lets a walk go on where it stopped. -/
theorem walkFrom_prefix (heap : Heap) (stop : OrdinaryObject → Bool) {left more : Nat}
    (higher : left ≤ more) (seen : List ObjectHandle) (link : Option ObjectHandle) :
    (heap.walkFrom stop left seen link).visited <+:
      (heap.walkFrom stop more seen link).visited := by
  fun_induction walkFrom heap stop left seen link generalizing more with
  | case1 | case2 | case3 | case4 => exact List.nil_prefix
  | case5 seen h fresh left o live stops =>
    obtain ⟨more, rfl⟩ := Nat.exists_eq_add_of_le' (Nat.le_trans (Nat.succ_pos left) higher)
    simp [walkFrom, fresh, live, stops]
  | case6 seen h fresh left o live goesOn rest =>
    rename_i ih
    obtain ⟨more, rfl⟩ := Nat.exists_eq_add_of_le' (Nat.le_trans (Nat.succ_pos left) higher)
    simpa [walkFrom, fresh, live, goesOn] using ih (Nat.le_of_succ_le_succ higher)

/-! ## How many objects there are to visit -/

/-- There are no more handles of objects than objects. -/
theorem length_le_size {handles : List ObjectHandle} (once : handles.Nodup)
    (live : ∀ h ∈ handles, heap.contains h = true) : handles.length ≤ heap.size := by
  have injective : Function.Injective fun h : ObjectHandle => h.index.toNat := by
    rintro ⟨h⟩ ⟨k⟩ same
    exact congrArg ObjectHandle.mk (UInt32.toNat_inj.1 same)
  have below : handles.map (fun h => h.index.toNat) ⊆ List.range heap.size := by
    intro i member
    obtain ⟨h, handle, rfl⟩ := List.mem_map.1 member
    simpa [contains] using live h handle
  simpa using ((List.Nodup.map injective once).subperm below).length_le

end Heap

/-! ## One object at a time -/

/-- The state of an iterator between two calls. -/
structure PrototypeWalk where
  link : Option ObjectHandle
  visited : List ObjectHandle
  hops : UInt32
  truncation : Option WalkTruncation
deriving DecidableEq, Inhabited

namespace PrototypeWalk

/-- An iterator that has not been called. -/
def start (h : ObjectHandle) : PrototypeWalk := ⟨some h, [], 0, none⟩

/-- One call: the next object, or the end of the walk. -/
def next (heap : Heap) (maxHops : UInt32) (walk : PrototypeWalk) :
    Option (ObjectHandle × OrdinaryObject) × PrototypeWalk :=
  match walk.link with
  | none => (none, walk)
  | some h =>
    if h ∈ walk.visited then
      (none, { walk with link := none, truncation := some .cycleDetected })
    else
      let visited := h :: walk.visited
      if maxHops < walk.hops then
        (none, { walk with link := none, visited, truncation := some .depthExceeded })
      else match heap.get? h with
        | none => (none, { walk with link := none, visited })
        | some o => (some (h, o), { walk with link := o.prototype, visited, hops := walk.hops + 1 })

/-- The objects that up to `n` calls show, and the iterator after them. -/
def take (heap : Heap) (maxHops : UInt32) :
    Nat → PrototypeWalk → List (ObjectHandle × OrdinaryObject) × PrototypeWalk
  | 0, walk => ([], walk)
  | n + 1, walk =>
    match walk.next heap maxHops with
    | (none, walk) => ([], walk)
    | (some shown, walk) =>
      let (others, walk) := take heap maxHops n walk
      (shown :: others, walk)

/-- The iterator has shown different objects, has counted them, and is within its limit. -/
structure InProgress (heap : Heap) (maxHops : UInt32) (walk : PrototypeWalk) : Prop where
  live : ∀ h ∈ walk.visited, heap.contains h = true
  once : walk.visited.Nodup
  counted : walk.hops.toNat = walk.visited.length
  limited : walk.hops.toNat ≤ maxHops.toNat + 1
  goesOn : walk.truncation = none

variable {heap : Heap} {maxHops : UInt32} {walk : PrototypeWalk}

theorem inProgress_start (heap : Heap) (maxHops : UInt32) (h : ObjectHandle) :
    InProgress heap maxHops (start h) :=
  ⟨nofun, .nil, rfl, Nat.zero_le _, rfl⟩

/-- The hop counter does not overflow, since there are fewer objects than handles. -/
theorem InProgress.next {walk' : PrototypeWalk} {shown : ObjectHandle × OrdinaryObject}
    (progress : InProgress heap maxHops walk) (small : heap.size < 2 ^ 32)
    (step : walk.next heap maxHops = (some shown, walk')) :
    InProgress heap maxHops walk' ∧ walk.hops.toNat < maxHops.toNat + 1 ∧
      walk'.hops.toNat = walk.hops.toNat + 1 := by
  unfold PrototypeWalk.next at step
  split at step
  · cases step
  · next h link =>
    split at step
    · cases step
    · next fresh =>
      dsimp only at step
      split at step
      · cases step
      · next within =>
        split at step
        · cases step
        · next o live =>
          cases step
          have allLive : ∀ k ∈ h :: walk.visited, heap.contains k = true := by
            intro k member
            obtain rfl | before := List.mem_cons.1 member
            · exact (Heap.contains_iff heap k).2 ⟨o, live⟩
            · exact progress.live k before
          have once : (h :: walk.visited).Nodup := List.nodup_cons.2 ⟨fresh, progress.once⟩
          have few := Heap.length_le_size once allLive
          have counted := progress.counted
          rw [UInt32.lt_iff_toNat_lt] at within
          rw [List.length_cons] at few
          have hops : (walk.hops + 1).toNat = walk.hops.toNat + 1 := by
            rw [UInt32.toNat_add, UInt32.toNat_one]
            omega
          refine ⟨⟨allLive, once, ?_, ?_, progress.goesOn⟩, by omega, hops⟩
          · simp only [hops, counted, List.length_cons]
          · simp only [hops]
            omega

/-- One call does what the recursion of the walk does. -/
theorem walkFrom_eq_next (progress : InProgress heap maxHops walk) :
    heap.walkFrom (fun _ => false) (maxHops.toNat + 1 - walk.hops.toNat) walk.visited walk.link =
      match walk.next heap maxHops with
      | (none, walk') => ⟨[], walk'.truncation⟩
      | (some shown, walk') =>
        let rest := heap.walkFrom (fun _ => false) (maxHops.toNat - walk.hops.toNat)
          walk'.visited walk'.link
        ⟨shown :: rest.visited, rest.truncation⟩ := by
  have limited := progress.limited
  obtain ⟨link, visited, hops, truncation⟩ := walk
  obtain rfl : truncation = none := progress.goesOn
  cases link with
  | none => simp [Heap.walkFrom, PrototypeWalk.next]
  | some h =>
    by_cases seen : h ∈ visited
    · unfold Heap.walkFrom
      simp [PrototypeWalk.next, seen]
    · by_cases used : maxHops < hops
      · -- the counter is at most one above the limit
        have none_ : maxHops.toNat + 1 - hops.toNat = 0 := by
          rw [UInt32.lt_iff_toNat_lt] at used
          omega
        simp [none_, Heap.walkFrom, PrototypeWalk.next, seen, used]
      · have some_ : maxHops.toNat + 1 - hops.toNat = (maxHops.toNat - hops.toNat) + 1 := by
          rw [UInt32.lt_iff_toNat_lt] at used
          omega
        cases live : heap.get? h with
        | none => simp [some_, Heap.walkFrom, PrototypeWalk.next, seen, used, live]
        | some o => simp [some_, Heap.walkFrom, PrototypeWalk.next, seen, used, live]

/-- Calls that show nothing end the walk. -/
theorem link_of_next {walk' : PrototypeWalk} (step : walk.next heap maxHops = (none, walk')) :
    walk'.link = none := by
  unfold PrototypeWalk.next at step
  split at step
  · next link => cases step; exact link
  · split at step
    · cases step; rfl
    · dsimp only at step
      split at step
      · cases step; rfl
      · split at step
        · cases step; rfl
        · cases step

/-- Enough calls show the objects of the walk and come to its end. -/
theorem take_eq_walkFrom (small : heap.size < 2 ^ 32) (progress : InProgress heap maxHops walk)
    {n : Nat} (enough : heap.size < n + walk.visited.length) :
    let w := heap.walkFrom (fun _ => false) (maxHops.toNat + 1 - walk.hops.toNat) walk.visited
      walk.link
    ∃ ended, walk.take heap maxHops n = (w.visited, ended) ∧ ended.link = none ∧
      ended.truncation = w.truncation := by
  induction n generalizing walk with
  | zero =>
    -- more objects would have been shown than there are
    have few := Heap.length_le_size progress.once progress.live
    omega
  | succ n ih =>
    dsimp only
    rw [walkFrom_eq_next progress, take]
    cases step : walk.next heap maxHops with
    | mk shown walk' =>
      cases shown with
      | none => exact ⟨walk', rfl, link_of_next step, rfl⟩
      | some shown =>
        obtain ⟨progress', within, hops⟩ := progress.next small step
        have room : maxHops.toNat + 1 - walk'.hops.toNat = maxHops.toNat - walk.hops.toNat := by
          omega
        have counted := progress.counted
        have counted' := progress'.counted
        obtain ⟨ended, calls, spent, truncation⟩ := ih progress' (by omega)
        rw [room] at calls truncation
        exact ⟨ended, by simp only [calls], spent, truncation⟩

end PrototypeWalk

/-! ## Whole walks -/

namespace Walk

/-- The objects of the walk: the start and what it is linked to, each once. -/
structure Follows (w : Walk) (heap : Heap) (start : ObjectHandle) : Prop where
  begins : w.handles.head? = some start
  live : ∀ h o, (h, o) ∈ w.visited → heap.get? h = some o
  once : w.handles.Nodup
  linked : w.visited.IsChain fun a b => a.2.prototype = some b.1

/-- The end of the walk, by the link of its last object. -/
structure EndsBefore (w : Walk) (heap : Heap) (maxHops : Nat) (link : Option ObjectHandle) :
    Prop where
  cycle : w.truncation = some .cycleDetected ↔ ∃ h, link = some h ∧ h ∈ w.handles
  limit : w.truncation = some .depthExceeded ↔
    w.visited.length = maxHops + 1 ∧ ∃ h, link = some h ∧ h ∉ w.handles
  complete : w.truncation = none ↔
    link = none ∨ w.visited.length ≤ maxHops ∧ ∃ h, link = some h ∧ heap.get? h = none

theorem nearest?_of_prefix {visited others : List (ObjectHandle × OrdinaryObject)}
    (before : visited <+: others) {key : PropertyKey} {owner : ObjectHandle}
    {p : PropertyDescriptor} (nearest : nearest? key visited = some (owner, p)) :
    nearest? key others = some (owner, p) := by
  obtain ⟨rest, rfl⟩ := before
  rw [nearest?] at nearest ⊢
  rw [List.findSome?_append, nearest, Option.some_or]

end Walk

namespace Heap

variable {heap : Heap} {start : ObjectHandle} {o : OrdinaryObject} {maxHops : Nat} {w : Walk}

theorem walk_eq_walkFrom (live : heap.get? start = some o) (maxHops : Nat) :
    heap.walk start maxHops =
      .ok (heap.walkFrom (fun _ => false) (maxHops + 1) [] (some start)) := by
  simp only [walk, walkUntil, get_of_live live, bind, Except.bind, pure, Except.pure]

theorem walk_follows (ends : heap.walk start maxHops = .ok w) : w.Follows heap start := by
  obtain ⟨⟨o, live⟩, -⟩ := walk_inv ends
  obtain ⟨rest, truncation, shown⟩ := walk_of_live live maxHops
  refine ⟨?_, fun h o => walk_live ends, walk_nodup ends, ?_⟩
  · rw [ends] at shown
    cases shown
    rfl
  · obtain ⟨-, rfl⟩ := walk_inv ends
    exact (walkFrom_linked heap _ _ _ _).2

theorem walk_contains (ends : heap.walk start maxHops = .ok w) {h : ObjectHandle}
    (visited : h ∈ w.handles) : heap.contains h = true := by
  obtain ⟨⟨h, o⟩, member, rfl⟩ := List.mem_map.1 visited
  exact (contains_iff heap h).2 ⟨o, walk_live ends member⟩

/-- A walk shows its start at least. -/
theorem walk_last (ends : heap.walk start maxHops = .ok w) :
    ∃ last, w.visited.getLast? = some last := by
  obtain ⟨⟨o, live⟩, -⟩ := walk_inv ends
  obtain ⟨rest, truncation, shown⟩ := walk_of_live live maxHops
  rw [ends] at shown
  cases shown
  exact ⟨_, List.getLast?_cons⟩

theorem walk_endsBefore (ends : heap.walk start maxHops = .ok w)
    {last : ObjectHandle × OrdinaryObject} (shown : w.visited.getLast? = some last) :
    w.EndsBefore heap maxHops last.2.prototype := by
  have contains := fun h => walk_contains ends (h := h)
  obtain ⟨-, rfl⟩ := walk_inv ends
  have stops := walkFrom_stops heap (maxHops + 1) [] (some start)
  have most := length_walkFrom_le heap (fun _ => false) (maxHops + 1) [] (some start)
  dsimp only at stops
  rw [Walk.linkAfter_of_getLast? shown, List.append_nil] at stops
  generalize heap.walkFrom (fun _ => false) (maxHops + 1) [] (some start) = w at *
  generalize last.2.prototype = link at *
  obtain ⟨visited, truncation⟩ := w
  cases stops with
  | null => constructor <;> simp
  | cycle repeated =>
    rw [List.mem_reverse] at repeated
    obtain ⟨k, live⟩ := (contains_iff heap _).1 (contains _ repeated)
    constructor <;> simp [repeated, live]
  | limit fresh used =>
    rw [List.mem_reverse] at fresh
    have full : visited.length = maxHops + 1 := by
      dsimp only at used most
      omega
    have tooMany : ¬ visited.length ≤ maxHops := by omega
    constructor
    case complete => simp [tooMany]
    all_goals simp [fresh, full]
  | dangling fresh room missing =>
    rw [List.mem_reverse] at fresh
    have within : visited.length ≤ maxHops := by
      dsimp only at room
      omega
    have notFull : visited.length ≠ maxHops + 1 := by omega
    constructor <;> simp [fresh, notFull, missing, within]

theorem findProperty_of_prefix {w' : Walk} {moreHops : Nat}
    (ends : heap.walk start maxHops = .ok w) (ends' : heap.walk start moreHops = .ok w')
    (before : w.visited <+: w'.visited) {key : PropertyKey} {lookup : PropertyLookup}
    (answer : heap.findProperty start key maxHops = .ok lookup) (found : lookup.found ≠ none) :
    heap.findProperty start key moreHops = .ok lookup := by
  obtain ⟨truncation, answer₁, uncut, -⟩ := findProperty_of_walk ends key
  obtain ⟨truncation', answer', uncut', -⟩ := findProperty_of_walk ends' key
  rw [answer] at answer₁
  cases answer₁
  obtain ⟨⟨owner, p⟩, nearest⟩ := Option.ne_none_iff_exists'.1 found
  dsimp only at nearest
  have nearest' := Walk.nearest?_of_prefix before nearest
  obtain rfl := uncut (by rw [nearest]; exact Option.some_ne_none _)
  obtain rfl := uncut' (by rw [nearest']; exact Option.some_ne_none _)
  rw [answer', nearest, nearest']

/-- A walk shows exactly the bounded part of a chain without repetitions.  Taken one object at a
time it comes to its end; it shows different objects, from the start along the prototype links; the
link at which it stops says why it stopped there; and a higher limit shows the same objects and then
others, so that what is found stays found. -/
theorem walk_bounded_acyclic_prefix {heap : Heap} (small : heap.size < 2 ^ 32)
    {start : ObjectHandle} {o : OrdinaryObject} (live : heap.get? start = some o)
    (maxHops : UInt32) :
    ∃ w, heap.walk start maxHops.toNat = .ok w ∧
      (∀ n, heap.size < n → ∃ ended,
        (PrototypeWalk.start start).take heap maxHops n = (w.visited, ended) ∧
          ended.link = none ∧ ended.truncation = w.truncation) ∧
      w.Follows heap start ∧
      w.visited.length ≤ maxHops.toNat + 1 ∧ w.visited.length ≤ heap.size ∧
      (∃ last, w.visited.getLast? = some last ∧
        w.EndsBefore heap maxHops.toNat last.2.prototype) ∧
      ∀ moreHops, maxHops ≤ moreHops →
        (∃ w', heap.walk start moreHops.toNat = .ok w' ∧ w.visited <+: w'.visited) ∧
        ∀ key lookup, heap.findProperty start key maxHops.toNat = .ok lookup →
          lookup.found ≠ none → heap.findProperty start key moreHops.toNat = .ok lookup := by
  have ends := walk_eq_walkFrom live maxHops.toNat
  refine ⟨_, ends, ?_, walk_follows ends, length_walkFrom_le heap _ _ _ _, ?_, ?_, ?_⟩
  · intro n enough
    exact PrototypeWalk.take_eq_walkFrom small
      (PrototypeWalk.inProgress_start heap maxHops start) enough
  · have few := length_le_size (walk_nodup ends) fun h => walk_contains ends
    rwa [Walk.handles, List.length_map] at few
  · obtain ⟨last, shown⟩ := walk_last ends
    exact ⟨last, shown, walk_endsBefore ends shown⟩
  · intro moreHops higher
    have ends' := walk_eq_walkFrom live moreHops.toNat
    have before := walkFrom_prefix heap (fun _ => false)
      (Nat.succ_le_succ (UInt32.le_iff_toNat_le.1 higher)) [] (some start)
    exact ⟨⟨_, ends', before⟩, fun key lookup => findProperty_of_prefix ends ends' before⟩

/-- A cycle that closes where the limit is reached: it is noticed before the limit is.  What the
second object owns is found under any higher limit, up to the highest. -/
theorem cycle_closing_at_limit :
    let heap : Heap :=
      ⟨#[{ prototype := some ⟨1⟩ },
        { prototype := some ⟨0⟩, properties := .ofList [(⟨"y"⟩, .openData .null)] }], by decide⟩
    heap.size < 2 ^ 32 ∧ ∃ w, heap.walk ⟨0⟩ 1 = .ok w ∧ w.handles = [⟨0⟩, ⟨1⟩] ∧
      w.truncation = some .cycleDetected ∧
      ((PrototypeWalk.start ⟨0⟩).take heap 1 3).1 = w.visited ∧
      heap.findProperty ⟨0⟩ ⟨"y"⟩ 4294967295 = .ok ⟨some (⟨1⟩, .openData .null), none⟩ := by
  intro heap
  have live : heap.get? ⟨0⟩ = some { prototype := some ⟨1⟩ } := rfl
  have small : heap.size < 2 ^ 32 := by decide
  obtain ⟨w, ends, calls, -, -, -, -, higher⟩ := walk_bounded_acyclic_prefix small live 1
  obtain ⟨ended, shown, -⟩ := calls 3 (by decide)
  have found : heap.findProperty ⟨0⟩ ⟨"y"⟩ 1 = .ok ⟨some (⟨1⟩, .openData .null), none⟩ := rfl
  have stillFound := (higher 4294967295 (by decide)).2 _ _ found (Option.some_ne_none _)
  cases ends
  exact ⟨small, _, rfl, rfl, rfl, congrArg Prod.fst shown, stillFound⟩

end Heap

end ObjectModel
