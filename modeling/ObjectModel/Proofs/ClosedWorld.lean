import ObjectModel.Literal
import ObjectModel.Scenario.Interpreter
import ObjectModel.Proofs.Closure
import ObjectModel.Proofs.Upholds

/-!
# Closed worlds

The world of a scenario is a realm and value cells.  It is closed if the realm is, and if the cells
and the host functions hold no missing object (`ClosedWorld`).  Three things keep it closed, and
they are all that a scenario does: an operation on things that exist (`ClosedWorld.perform`), a call
of a host function, which moves known values between the caller and the cells
(`ClosedWorld.runs_function`), and a value put into a cell (`ClosedWorld.setCell`).

`StaysClosed` is the specification of the programs of scenarios: all worlds that they come by are
closed, and their results are as stated.
-/

namespace ObjectModel

variable {α γ : Type}

/-- No cell and no host function holds a missing object, and no object refers to one. -/
structure ClosedWorld (w : World ScenarioFunction Cells) : Prop where
  realm : w.realm.Closed
  cells : ∀ cell v, w.host.get? cell = some v → w.realm.Knows v
  constants : ∀ f function v, w.realm.functions.get? f = some function →
    function.body.action = .returnConstant v → w.realm.Knows v

/-- The values that the operation gives to a host function. -/
def Request.givesConstant : Request ScenarioFunction → Value → Prop
  | .createFunction _ body, v => body.action = .returnConstant v
  | _, _ => False

theorem LiteralEntry.toFields_classify (entry : LiteralEntry) :
    ∃ kind, entry.toFields.classify = .ok kind := by
  cases entry <;> exact ⟨_, rfl⟩

theorem LiteralEntry.toFields_configurable (entry : LiteralEntry) :
    entry.toFields.configurable = some true := by
  cases entry <;> rfl

theorem Realm.Effect.function_inv {β : Type} {r r' : Realm β} {q : Request β}
    (effect : r.Effect q r') {f : ObjectHandle} {function : HostFunction β}
    (registered : r'.functions.get? f = some function) :
    r.functions.get? f = some function ∨ ∃ name, q = .createFunction name function.body := by
  cases effect with
  | quiet | edit | alloc => exact .inl registered
  | createFunction name body asked =>
    rw [OrderedMap.get?_insert] at registered
    split at registered
    · cases registered
      exact .inr ⟨name, asked⟩
    · exact .inl registered

namespace ClosedWorld

variable {w : World ScenarioFunction Cells} {r : Realm ScenarioFunction} {cells : Cells}

/-! ## Cells and host functions -/

theorem knows_cell (closed : ClosedWorld ⟨r, cells⟩) (cell : String) :
    r.Knows (cells.read cell) := by
  rw [Cells.read]
  cases held : cells.get? cell with
  | none => exact Realm.knows_of_no_object rfl
  | some v => exact closed.cells cell v held

theorem setCell (closed : ClosedWorld ⟨r, cells⟩) (cell : String) {v : Value} (known : r.Knows v) :
    ClosedWorld ⟨r, cells.insert cell v⟩ where
  realm := closed.realm
  cells other u held := by
    simp only [OrderedMap.get?_insert] at held
    split at held
    · cases held
      exact known
    · exact closed.cells other u held
  constants := closed.constants

theorem updateCells (closed : ClosedWorld ⟨r, cells⟩) (function : ScenarioFunction)
    {this : Value} {args : List Value} (receiver : r.Knows this) (known : ∀ a ∈ args, r.Knows a) :
    ClosedWorld ⟨r, function.updateCells this args cells⟩ := by
  obtain ⟨action, recordReceiver⟩ := function
  -- the receiver is recorded first, so what follows is for any cells
  have written : ∀ {cells}, ClosedWorld ⟨r, cells⟩ →
      ClosedWorld ⟨r, (ScenarioFunction.mk action none).updateCells this args cells⟩ := by
    intro cells closed
    cases action with
    | returnConstant | readCell => exact closed
    | writeCell cell =>
      refine closed.setCell cell ?_
      cases args with
      | nil => exact Realm.knows_of_no_object rfl
      | cons first rest => exact known first List.mem_cons_self
  cases recordReceiver with
  | none => exact written closed
  | some cell => exact written (closed.setCell cell receiver)

theorem knows_result (closed : ClosedWorld ⟨r, cells⟩) (function : ScenarioFunction)
    (constant : ∀ v, function.action = .returnConstant v → r.Knows v) :
    r.Knows (function.result cells) := by
  obtain ⟨action, recordReceiver⟩ := function
  cases action with
  | returnConstant v => exact constant v rfl
  | readCell cell plus =>
    cases plus with
    | none => exact closed.knows_cell cell
    | some x => exact Realm.knows_of_no_object rfl
  | writeCell cell => exact Realm.knows_of_no_object rfl

/-- The body of a host function never fails and returns nothing that is missing. -/
theorem runs_function (closed : ClosedWorld w) (function : ScenarioFunction)
    (constant : ∀ v, function.action = .returnConstant v → w.realm.Knows v) {this : Value}
    {args : List Value} (receiver : w.realm.Knows this) (known : ∀ a ∈ args, w.realm.Knows a)
    (depth : Nat) :
    (function.run this args).Upholds ScenarioFunction.run depth ClosedWorld w
      fun result w' => Realm.Reads result w'.realm := by
  have after := closed.updateCells function receiver known
  exact .host closed (.done after ⟨_, rfl, after.knows_result function constant⟩)

/-! ## Operations -/

theorem perform (closed : ClosedWorld w) {q : Request ScenarioFunction}
    (stored : ∀ k, q.stores k → w.realm.heap.contains k = true)
    (constant : ∀ v, q.givesConstant v → w.realm.Knows v) :
    ClosedWorld ⟨(w.realm.perform q).2, w.host⟩ := by
  have effect := w.realm.perform_effect q
  have grows := effect.transition.grows
  refine ⟨effect.closed closed.realm stored, ?_, ?_⟩
  · intro cell v held
    exact grows.knows (closed.cells cell v held)
  · intro f function v registered action
    obtain old | ⟨name, asked⟩ := effect.function_inv registered
    · exact grows.knows (closed.constants f function v old action)
    · subst asked
      exact grows.knows (constant v action)

end ClosedWorld

/-! ## Programs of scenarios -/

/-- Every world that a run comes by is closed, and its result satisfies the postcondition. -/
def StaysClosed (p : ScenarioProgram α) (w : World ScenarioFunction Cells)
    (Post : Except ObjectError α → Realm ScenarioFunction → Prop) : Prop :=
  p.Upholds ScenarioFunction.run 1 ClosedWorld w fun result w' => Post result w'.realm

namespace StaysClosed

variable {w : World ScenarioFunction Cells}
  {Mid Post : Except ObjectError α → Realm ScenarioFunction → Prop}

theorem done (closed : ClosedWorld w) {result : Except ObjectError α} (post : Post result w.realm) :
    StaysClosed (.done result) w Post :=
  Program.Upholds.done closed post

theorem bind {p : ScenarioProgram α} {f : α → ScenarioProgram γ}
    {Post : Except ObjectError γ → Realm ScenarioFunction → Prop} (first : StaysClosed p w Mid)
    (rest : ∀ a w', w.realm.Grows w'.realm → ClosedWorld w' → Mid (.ok a) w'.realm →
      StaysClosed (f a) w' Post)
    (fails : ∀ e s, Mid (.error e) s → Post (.error e) s) : StaysClosed (p >>= f) w Post :=
  Program.Upholds.andThen first
    (fun a w' ends closed mid => rest a w' (Realm.grows_of_run ends) closed mid)
    fun e w' mid => fails e w'.realm mid

/-- A program that fails in no way goes on with its value. -/
theorem bind_ok {p : ScenarioProgram α} {f : α → ScenarioProgram γ}
    {Post : Except ObjectError γ → Realm ScenarioFunction → Prop}
    {Holds : α → Realm ScenarioFunction → Prop} (first : StaysClosed p w (Realm.Yields Holds))
    (rest : ∀ a w', w.realm.Grows w'.realm → ClosedWorld w' → Holds a w'.realm →
      StaysClosed (f a) w' Post) : StaysClosed (p >>= f) w Post := by
  refine first.bind (fun a w' grows closed mid => ?_) fun e s mid => ?_
  · obtain ⟨_, ⟨⟩, holds⟩ := mid
    exact rest a w' grows closed holds
  · obtain ⟨_, ⟨⟩, _⟩ := mid

theorem bind_inspect {f : Realm ScenarioFunction → γ} {next : γ → ScenarioProgram α}
    (rest : StaysClosed (next (f w.realm)) w Post) :
    StaysClosed (Program.inspect f >>= next) w Post :=
  Program.Upholds.look rest

theorem bind_inspectOrThrow (closed : ClosedWorld w)
    {f : Realm ScenarioFunction → Except ObjectError γ} {next : γ → ScenarioProgram α}
    (rest : ∀ a, f w.realm = .ok a → StaysClosed (next a) w Post)
    (fails : ∀ e, f w.realm = .error e → Post (.error e) w.realm) :
    StaysClosed (Program.inspectOrThrow f >>= next) w Post := by
  apply Program.Upholds.look
  show StaysClosed ((Program.done (f w.realm)).andThen next) w Post
  cases seen : f w.realm with
  | ok a => exact rest a seen
  | error e => exact done closed (fails e seen)

/-- The rule for one operation, from what it is given and what it answers. -/
theorem request (closed : ClosedWorld w) {q : Request ScenarioFunction}
    {Post : Except ObjectError q.Answer → Realm ScenarioFunction → Prop}
    (stored : ∀ k, q.stores k → w.realm.heap.contains k = true)
    (constant : ∀ v, q.givesConstant v → w.realm.Knows v)
    (replies : w.realm.Replies Post (w.realm.perform q)) :
    StaysClosed (Program.request q) w Post := by
  have after := closed.perform stored constant
  have grows := (w.realm.perform_transition q).grows
  refine Program.Upholds.request closed ?_
  generalize w.realm.perform q = answer at replies after grows
  cases replies with
  | done holds => exact ⟨after, holds⟩
  | @call f function this args finish s registered receiver known finishes =>
    have body := after.runs_function function.body
      (fun v action => grows.knows (closed.constants f function v registered action))
      (grows.knows receiver) (fun a member => grows.knows (known a member)) 0
    refine body.weaken fun result w' _ reads => ?_
    obtain ⟨v, rfl, knows⟩ := reads
    exact finishes v w'.realm knows
  | exhausted => exact after

end StaysClosed

/-! ### One operation -/

namespace ClosedWorld

variable {w : World ScenarioFunction Cells} (closed : ClosedWorld w)

include closed

theorem newObject : StaysClosed Program.newObject w Realm.Allocates :=
  .request closed nofun nofun (w.realm.alloc_allocates _)

theorem createObject (prototype : Option ObjectHandle)
    (live : ∀ p, prototype = some p → w.realm.heap.contains p = true) :
    StaysClosed (Program.createObject prototype) w Realm.Allocates :=
  .request closed live nofun (Realm.createObject_allocates live)

theorem allocate {prototype : ObjectHandle} {classTag : String}
    (live : w.realm.heap.contains prototype = true) :
    StaysClosed (Program.allocate (some prototype) classTag) w Realm.Allocates := by
  refine .request closed ?_ nofun (w.realm.alloc_allocates _)
  rintro _ ⟨⟩
  exact live

theorem createFunction (name : String) {body : ScenarioFunction}
    (constant : ∀ v, body.action = .returnConstant v → w.realm.Knows v) :
    StaysClosed (Program.createFunction name body) w Realm.Allocates :=
  .request closed nofun constant (w.realm.createFunction_allocates name body)

/-- A call on an object as the receiver, without arguments. -/
theorem call {function object : ObjectHandle} (live : w.realm.heap.contains function = true)
    (receiver : w.realm.heap.contains object = true) :
    StaysClosed (Program.call function (.object object) []) w fun result s =>
      Realm.Reads result s ∨ result = .error (.notCallable function) :=
  .request closed nofun nofun (Realm.call_replies live (Realm.knows_object receiver) nofun)

theorem object {h : ObjectHandle} (live : w.realm.heap.contains h = true) :
    StaysClosed (Program.object h) w Realm.Succeeds := by
  obtain ⟨o, objectLive⟩ := (Heap.contains_iff _ _).1 live
  exact .look (.done closed ⟨o, Heap.get_of_live objectLive, trivial⟩)

/-- Reading the cells. -/
theorem hostState : StaysClosed Program.hostState w Realm.Succeeds :=
  .host closed (.done closed ⟨w.host, rfl, trivial⟩)

theorem modifyHost {cell : String} {v : Value} (known : w.realm.Knows v) :
    StaysClosed (Program.modifyHost fun cells : Cells => cells.insert cell v) w Realm.Succeeds :=
  .host closed (.done (closed.setCell cell known) ⟨(), rfl, trivial⟩)

section Object

variable {object : ObjectHandle} (live : w.realm.heap.contains object = true)

include live

theorem get (key : PropertyKey) {receiver : Value} (known : w.realm.Knows receiver) :
    StaysClosed (Program.get object key receiver) w Realm.Reads :=
  .request closed nofun nofun (closed.realm.get_reads live key known)

theorem put (key : PropertyKey) {value receiver : Value} (known : w.realm.Knows value)
    (receives : w.realm.Knows receiver) :
    StaysClosed (Program.put object key value receiver) w Realm.Succeeds :=
  .request closed (fun k stored => known k stored) nofun
    (closed.realm.put_succeeds live key known receives)

theorem delete (key : PropertyKey) : StaysClosed (Program.delete object key) w Realm.Succeeds :=
  .request closed nofun nofun (Realm.delete_succeeds live key)

theorem enumerateKeys : StaysClosed (Program.enumerateKeys object) w Realm.Succeeds :=
  .request closed nofun nofun (Realm.enumerateKeys_succeeds live)

theorem setPrototype {prototype : Option ObjectHandle}
    (exists_ : ∀ p, prototype = some p → w.realm.heap.contains p = true) :
    StaysClosed (Program.setPrototype object prototype) w Realm.Succeeds :=
  .request closed exists_ nofun (Realm.setPrototype_succeeds live exists_)

end Object

theorem define (object : ObjectHandle) (key : PropertyKey) {fields : DescriptorFields}
    (live : ∀ k, fields.refersTo k → w.realm.heap.contains k = true) :
    StaysClosed (Program.define object key fields) w fun _ _ => True :=
  .request closed live nofun (w.realm.define_replies object key fields)

/-! ### Constructing and initialising -/

/-- A construction fails for one reason, which is that the object is no function. -/
theorem construct {function : ObjectHandle} (live : w.realm.heap.contains function = true) :
    StaysClosed (Program.construct function []) w fun result s =>
      Realm.Allocates result s ∨ result = .error (.notCallable function) := by
  refine .bind_inspectOrThrow closed (fun _ _ => .bind_inspect ?_) fun e refused => ?_
  · refine (closed.get live _ (Realm.knows_object live)).bind_ok fun v w₁ grows₁ closed₁ known => ?_
    -- the prototype is an object that a property holds, or an intrinsic object
    have prototypeLive := known.contains_getD
      (grows₁ _ closed.realm.intrinsics.objectPrototype)
    refine (closed₁.allocate prototypeLive).bind_ok fun object w₂ grows₂ closed₂ objectLive => ?_
    have functionLive : w₂.realm.heap.contains function = true := grows₂ _ (grows₁ _ live)
    refine (closed₂.call functionLive objectLive).bind (fun returned w₃ grows₃ closed₃ mid => ?_)
      fun e s mid => ?_
    · obtain ⟨_, ⟨⟩, known⟩ | ⟨⟨⟩⟩ := mid
      exact .done closed₃ (.inl ⟨_, rfl, known.contains_getD (grows₃ _ objectLive)⟩)
    · obtain ⟨_, ⟨⟩, _⟩ | ⟨⟨⟩⟩ := mid
      exact .inr rfl
  · split at refused
    · cases refused
    · rw [Realm.callError, live, if_pos rfl] at refused
      cases refused
      exact .inr rfl

/-- The entries are defined on an object that stays open, so their functions alone can be at
fault. -/
theorem applyEntries {object : ObjectHandle} {entries : List LiteralEntry}
    (isOpen : w.realm.OpenAt object)
    (live : ∀ entry ∈ entries, ∀ k, entry.toFields.refersTo k →
      w.realm.heap.contains k = true) :
    StaysClosed (ObjectLiteral.applyEntries object entries) w fun result s =>
      Realm.Succeeds result s ∨ ∃ f, result = .error (.notCallable f) := by
  induction entries generalizing w with
  | nil => exact .done closed (.inl ⟨(), rfl, trivial⟩)
  | cons entry rest ih =>
    obtain ⟨kind, shape⟩ := entry.toFields_classify
    have first : StaysClosed (Program.define object entry.key entry.toFields) w _ :=
      .request closed (live entry List.mem_cons_self) nofun
        (Realm.define_on_open isOpen entry.key shape entry.toFields_configurable)
    refine first.bind (fun _ w₁ grows closed₁ mid => ?_) fun e s mid => ?_
    · obtain ⟨-, stillOpen⟩ | ⟨_, ⟨⟩⟩ := mid
      exact ih closed₁ stillOpen fun other member k refers =>
        grows k (live other (List.mem_cons_of_mem entry member) k refers)
    · obtain ⟨⟨_, ⟨⟩, _⟩, _⟩ | ⟨f, ⟨⟩⟩ := mid
      exact .inr ⟨f, rfl⟩

theorem build (literal : ObjectLiteral)
    (live : ∀ entry ∈ literal.entries, ∀ k, entry.toFields.refersTo k →
      w.realm.heap.contains k = true) :
    StaysClosed literal.build w fun result s =>
      Realm.Allocates result s ∨ ∃ f, result = .error (.notCallable f) := by
  have fresh : StaysClosed Program.newObject w _ :=
    .request closed nofun nofun w.realm.newObject_opens
  refine fresh.bind_ok fun object w₁ grows₁ closed₁ isOpen => ?_
  have applied := closed₁.applyEntries isOpen
    fun entry member k refers => grows₁ k (live entry member k refers)
  refine applied.bind (fun _ w₂ grows₂ closed₂ _ => ?_) fun e s mid => ?_
  · exact .done closed₂ (.inl ⟨object, rfl, grows₂ object isOpen.contains⟩)
  · obtain ⟨_, ⟨⟩, _⟩ | ⟨f, ⟨⟩⟩ := mid
    exact .inr ⟨f, rfl⟩

end ClosedWorld

end ObjectModel
