import ObjectModel.Proofs.Run

/-!
# Specifications of runs

`Program.Upholds` is a specification of a run over all worlds that it comes by: an invariant holds
of each, and the result satisfies a postcondition.

Its rules follow the ways to build a program.  Running a program on the value of another, and
running one on the error of another, are the same construction, `continueWith`, so one rule
(`Upholds.continueWith`) serves both.
-/

namespace ObjectModel

variable {β σ α γ : Type}

namespace Program

/-! ## Continuing with a result -/

/-- Runs a second program on the result of the first, be it a value or an error. -/
def continueWith : Program β σ α → (Except ObjectError α → Program β σ γ) → Program β σ γ
  | done result, f => f result
  | ask q next, f => ask q fun answer => (next answer).continueWith f
  | look next, f => look fun r => (next r).continueWith f
  | host change next, f => host change fun s => (next s).continueWith f

theorem andThen_eq_continueWith (p : Program β σ α) (f : α → Program β σ γ) :
    p.andThen f = p.continueWith fun
      | .ok a => f a
      | .error e => done (.error e) := by
  induction p with
  | done result => cases result <;> rfl
  | ask q next ih => exact congrArg (ask q) (funext ih)
  | look next ih => exact congrArg look (funext ih)
  | host change next ih => exact congrArg (host change) (funext ih)

theorem orElse_eq_continueWith (p : Program β σ α) (f : ObjectError → Program β σ α) :
    p.orElse f = p.continueWith fun
      | .ok a => done (.ok a)
      | .error e => f e := by
  induction p with
  | done result => cases result <;> rfl
  | ask q next ih => exact congrArg (ask q) (funext ih)
  | look next ih => exact congrArg look (funext ih)
  | host change next ih => exact congrArg (host change) (funext ih)

section With

variable {callee : β → Value → List Value → World β σ →
    Option (Except ObjectError Value × World β σ)}
  {within : β → Value → List Value → World β σ → World β σ → Prop}

theorem runWith_continueWith (p : Program β σ α) (f : Except ObjectError α → Program β σ γ)
    (w : World β σ) :
    (p.continueWith f).runWith callee w =
      (p.runWith callee w).bind fun (result, w') => (f result).runWith callee w' := by
  induction p generalizing w with
  | done result => rfl
  | ask q next ih =>
    obtain ⟨realm, state⟩ := w
    simp only [continueWith, runWith]
    split
    · exact ih _ _
    · split
      · exact ih _ _
      · rfl
    · rfl
  | look next ih => exact ih _ _
  | host change next ih => exact ih _ _

theorem run_andThen (p : Program β σ α) (f : α → Program β σ γ)
    (bodies : β → Value → List Value → Program β σ Value) (depth : Nat) (w : World β σ) :
    (p.andThen f).run bodies depth w = (p.run bodies depth w).bind fun
      | (.ok a, w') => (f a).run bodies depth w'
      | (.error e, w') => some (.error e, w') := by
  rw [andThen_eq_continueWith, run, runWith_continueWith, run]
  cases p.runWith (runBody bodies depth) w with
  | none => rfl
  | some ended =>
    obtain ⟨result, w'⟩ := ended
    cases result <;> rfl

/-- What is made of the value at the end changes nothing else. -/
theorem run_andThen_done (p : Program β σ α) (f : α → γ)
    (bodies : β → Value → List Value → Program β σ Value) (depth : Nat) (w : World β σ) :
    (p.andThen fun a => done (.ok (f a))).run bodies depth w =
      (p.run bodies depth w).map fun (result, w') => (result.map f, w') := by
  rw [run_andThen]
  cases p.run bodies depth w with
  | none => rfl
  | some ended =>
    obtain ⟨result, w'⟩ := ended
    cases result <;> rfl

/-- A world that both programs together come by is one of the first, or one of the second from
where the first ends. -/
theorem visitsWith_continueWith (p : Program β σ α) (f : Except ObjectError α → Program β σ γ)
    {w v : World β σ} (visited : (p.continueWith f).visitsWith callee within w v) :
    p.visitsWith callee within w v ∨ ∃ result w', p.runWith callee w = some (result, w') ∧
      (f result).visitsWith callee within w' v := by
  induction p generalizing w with
  | done result => exact .inr ⟨result, w, rfl, visited⟩
  | ask q next ih =>
    obtain ⟨realm, state⟩ := w
    rw [continueWith, visitsWith] at visited
    rw [visitsWith]
    obtain rfl | later := visited
    · exact .inl (.inl rfl)
    · simp only [runWith]
      split at later
      · next answer realm reply =>
        simp only [reply]
        exact (ih _ later).imp_left .inr
      · next body this args finish realm reply =>
        simp only [reply]
        obtain inside | ⟨answer, w', called, later⟩ := later
        · exact .inl (.inr (.inl inside))
        · simp only [called]
          obtain first | second := ih _ later
          · exact .inl (.inr (.inr ⟨answer, w', rfl, first⟩))
          · exact .inr second
      · next realm reply =>
        simp only [reply]
        exact .inl (.inr later)
  | look next ih => exact ih _ visited
  | host change next ih =>
    obtain rfl | later := visited
    · exact .inl (.inl rfl)
    · exact (ih _ later).imp_left .inr

end With

/-! ## Specifications of runs -/

/-- Every world that the run comes by satisfies the invariant, and the result, if there is one,
satisfies the postcondition. -/
structure Upholds (bodies : β → Value → List Value → Program β σ Value) (depth : Nat)
    (Inv : World β σ → Prop) (p : Program β σ α) (w : World β σ)
    (Post : Except ObjectError α → World β σ → Prop) : Prop where
  always : ∀ v, p.visits bodies depth w v → Inv v
  ends : ∀ result w', p.run bodies depth w = some (result, w') → Post result w'

namespace Upholds

variable {bodies : β → Value → List Value → Program β σ Value} {depth : Nat}
  {Inv : World β σ → Prop} {p : Program β σ α} {w : World β σ}
  {Mid Post : Except ObjectError α → World β σ → Prop}

/-- A run comes by what it comes by, and ends as it ends. -/
theorem self (bodies : β → Value → List Value → Program β σ Value) (depth : Nat)
    (p : Program β σ α) (w : World β σ) :
    Upholds bodies depth (p.visits bodies depth w) p w
      fun result w' => p.run bodies depth w = some (result, w') where
  always _ visited := visited
  ends _ _ ends := ends

theorem weaken_inv {Inv' : World β σ → Prop} (upholds : Upholds bodies depth Inv p w Post)
    (implies : ∀ v, Inv v → Inv' v) : Upholds bodies depth Inv' p w Post where
  always v visited := implies v (upholds.always v visited)
  ends := upholds.ends

theorem weaken (upholds : Upholds bodies depth Inv p w Mid)
    (implies : ∀ result w', Inv w' → Mid result w' → Post result w') :
    Upholds bodies depth Inv p w Post where
  always := upholds.always
  ends result w' ends :=
    implies result w' (upholds.always w' (visitsWith_end p ends)) (upholds.ends result w' ends)

theorem done {result : Except ObjectError α} (inv : Inv w) (post : Post result w) :
    Upholds bodies depth Inv (.done result) w Post where
  always v visited := by
    cases visited
    exact inv
  ends _ _ ends := by
    cases ends
    exact post

theorem look {next : Realm β → Program β σ α}
    (rest : Upholds bodies depth Inv (next w.realm) w Post) :
    Upholds bodies depth Inv (.look next) w Post where
  always v visited := rest.always v visited
  ends result w' ends := rest.ends result w' ends

theorem host {change : σ → σ} {next : σ → Program β σ α} (inv : Inv w)
    (rest : Upholds bodies depth Inv (next (change w.host)) ⟨w.realm, change w.host⟩ Post) :
    Upholds bodies depth Inv (.host change next) w Post where
  always v visited := by
    obtain rfl | later := visited
    · exact inv
    · exact rest.always v later
  ends result w' ends := rest.ends result w' ends

theorem continueWith {f : Except ObjectError α → Program β σ γ}
    {Post : Except ObjectError γ → World β σ → Prop}
    (first : Upholds bodies depth Inv p w Mid)
    (rest : ∀ result w', p.run bodies depth w = some (result, w') → Mid result w' →
      Upholds bodies depth Inv (f result) w' Post) :
    Upholds bodies depth Inv (p.continueWith f) w Post where
  always v visited := by
    obtain early | ⟨result, w', ends, late⟩ := visitsWith_continueWith p f visited
    · exact first.always v early
    · exact (rest result w' ends (first.ends result w' ends)).always v late
  ends result v ends := by
    rw [run, runWith_continueWith, Option.bind_eq_some_iff] at ends
    obtain ⟨⟨middle, w'⟩, ended, later⟩ := ends
    exact (rest middle w' ended (first.ends middle w' ended)).ends result v later

theorem andThen {f : α → Program β σ γ} {Post : Except ObjectError γ → World β σ → Prop}
    (first : Upholds bodies depth Inv p w Mid)
    (rest : ∀ a w', p.run bodies depth w = some (.ok a, w') → Inv w' → Mid (.ok a) w' →
      Upholds bodies depth Inv (f a) w' Post)
    (fails : ∀ e w', Mid (.error e) w' → Post (.error e) w') :
    Upholds bodies depth Inv (p.andThen f) w Post := by
  rw [andThen_eq_continueWith]
  refine first.continueWith fun result w' ends mid => ?_
  have inv : Inv w' := first.always w' (visitsWith_end p ends)
  cases result with
  | ok a => exact rest a w' ends inv mid
  | error e => exact done inv (fails e w' mid)

theorem orElse {f : ObjectError → Program β σ α} (first : Upholds bodies depth Inv p w Mid)
    (keeps : ∀ a w', Mid (.ok a) w' → Post (.ok a) w')
    (rest : ∀ e w', p.run bodies depth w = some (.error e, w') → Inv w' → Mid (.error e) w' →
      Upholds bodies depth Inv (f e) w' Post) :
    Upholds bodies depth Inv (p.orElse f) w Post := by
  rw [orElse_eq_continueWith]
  refine first.continueWith fun result w' ends mid => ?_
  have inv : Inv w' := first.always w' (visitsWith_end p ends)
  cases result with
  | ok a => exact done inv (keeps a w' mid)
  | error e => exact rest e w' ends inv mid

/-- An operation is answered at once, or ends with the answer of the body that it calls. -/
theorem request {q : Request β} {Post : Except ObjectError q.Answer → World β σ → Prop}
    (inv : Inv w)
    (answered : match w.realm.perform q with
      | (.done result, realm) => Inv ⟨realm, w.host⟩ ∧ Post result ⟨realm, w.host⟩
      | (.call body this args finish, realm) =>
        Upholds bodies depth Inv (bodies body this args) ⟨realm, w.host⟩
          fun result w' => Post (result.map finish) w'
      | (.exhausted, realm) => Inv ⟨realm, w.host⟩) :
    Upholds bodies (depth + 1) Inv (Program.request q) w Post where
  always v visited := by
    rw [visits, Program.request, visitsWith] at visited
    obtain rfl | later := visited
    · exact inv
    · split at later
      · next result realm reply =>
        rw [reply] at answered
        cases later
        exact answered.1
      · next body this args finish realm reply =>
        rw [reply] at answered
        obtain inside | ⟨result, w', called, atEnd⟩ := later
        · exact answered.always v inside
        · cases atEnd
          exact answered.always _ (visitsWith_end _ called)
      · next realm reply =>
        rw [reply] at answered
        cases later
        exact answered
  ends result w' ends := by
    obtain ⟨realm, state⟩ := w
    rw [run, Program.request, runWith] at ends
    split at ends
    · next answer realm' reply =>
      rw [reply] at answered
      cases ends
      exact answered.2
    · next body this args finish realm' reply =>
      rw [reply] at answered
      split at ends
      · next answer w'' called =>
        cases ends
        exact answered.ends answer _ called
      · cases ends
    · cases ends

end Upholds

end Program

end ObjectModel
