import PlayerLink.Progress

/-!
# Steps that write to the log

Work on a device, a bus or a container runs in a state monad over the log. No step reads the
log, so what a step does is said of its answer and of the state after it, for every log.

`Ends` is a total specification: every step ends, and the postcondition speaks of all that it
leaves behind. `Gives` names the answer and the state after a step, and `After` is the same as
`Ends` for steps without a state. The rules below follow
the constructors of the monads, so a function is treated one call at a time and a call is
treated by its own theorem, never by its body.
-/

namespace PlayerLink

/-- Whatever stands in the log, a step ends with an answer of which `post` holds. -/
def After {α : Type} (step : LogM α) (post : α → Prop) : Prop := ∀ log, post (step log).1

/-- From `s`, whatever stands in the log, a step ends with an answer and a state of which
`post` holds. -/
def Ends {σ α : Type} (step : StateT σ LogM α) (post : α → σ → Prop) (s : σ) : Prop :=
  ∀ log, post (step s log).1.1 (step s log).1.2

/-- From `s`, whatever stands in the log, a step ends with the answer `a` in the state `t`. -/
def Gives {σ α : Type} (step : StateT σ LogM α) (s : σ) (a : α) (t : σ) : Prop :=
  Ends step (fun b u => b = a ∧ u = t) s

namespace After

variable {α β : Type}

theorem bind {step : LogM α} {next : α → LogM β} {mid : α → Prop} {post : β → Prop}
    (first : After step mid) (rest : ∀ a, mid a → After (next a) post) :
    After (step >>= next) post :=
  fun log => rest _ (first log) _

@[simp] theorem pure_iff {a : α} {post : α → Prop} : After (pure a) post ↔ post a :=
  ⟨fun h => h {}, fun h _ => h⟩

end After

namespace Ends

variable {σ π α β ε : Type} {s : σ}
variable {post : β → σ → Prop}

theorem after_iff {step : StateT σ LogM α} {post : α → σ → Prop} :
    Ends step post s ↔ After (step s) (fun r => post r.1 r.2) := Iff.rfl

theorem mono {step : StateT σ LogM α} {mid mid' : α → σ → Prop} (h : Ends step mid s)
    (weaken : ∀ a t, mid a t → mid' a t) : Ends step mid' s :=
  fun log => weaken _ _ (h log)

theorem and {step : StateT σ LogM α} {mid mid' : α → σ → Prop} (h : Ends step mid s)
    (h' : Ends step mid' s) : Ends step (fun a t => mid a t ∧ mid' a t) s :=
  fun log => ⟨h log, h' log⟩

/-- Every step ends. -/
theorem trivial (step : StateT σ LogM α) (s : σ) : Ends step (fun _ _ => True) s :=
  fun _ => True.intro

@[simp] theorem pure_iff {b : β} : Ends (pure b) post s ↔ post b s :=
  ⟨fun h => h {}, fun h _ => h⟩

/-- A text in the log is seen by no later step. -/
@[simp] theorem lift_iff {text : LogM Unit} {post : Unit → σ → Prop} :
    Ends (liftM text) post s ↔ post () s :=
  ⟨fun h => h {}, fun h _ => h⟩

theorem bind {step : StateT σ LogM α} {next : α → StateT σ LogM β} {mid : α → σ → Prop}
    (first : Ends step mid s) (rest : ∀ a t, mid a t → Ends (next a) post t) :
    Ends (step >>= next) post s :=
  fun log => rest _ _ (first log) _

theorem bind_lift {text : LogM Unit} {next : Unit → StateT σ LogM β}
    (rest : Ends (next ()) post s) : Ends (liftM text >>= next) post s :=
  bind (lift_iff.mpr rest) fun _ _ h => h

theorem bind_get {next : σ → StateT σ LogM β} (rest : Ends (next s) post s) :
    Ends (get >>= next) post s :=
  fun log => rest log

/-- A failure is passed on by everything that follows. -/
theorem bindExcept {step : ExceptT ε (StateT σ LogM) α}
    {next : α → ExceptT ε (StateT σ LogM) β} {mid : Except ε α → σ → Prop}
    {post : Except ε β → σ → Prop} (first : Ends step.run mid s)
    (ok : ∀ a t, mid (.ok a) t → Ends (next a).run post t)
    (error : ∀ e t, mid (.error e) t → post (.error e) t) :
    Ends (step >>= next).run post s := by
  change Ends (step.run >>= ExceptT.bindCont next) post s
  refine bind first ?_
  intro outcome t h
  cases outcome with
  | ok a => exact ok a t h
  | error e => exact pure_iff.mpr (error e t h)

theorem bindExcept_lift {text : LogM Unit} {next : Unit → ExceptT ε (StateT σ LogM) β}
    {post : Except ε β → σ → Prop} (rest : Ends (next ()).run post s) :
    Ends (liftM text >>= next : ExceptT ε (StateT σ LogM) β).run post s :=
  fun _ => rest _

theorem runLift {text : LogM Unit} {post : Except ε Unit → σ → Prop} (last : post (.ok ()) s) :
    Ends (liftM text : ExceptT ε (StateT σ LogM) Unit).run post s :=
  fun _ => last

/-- A step that knows nothing of the state. -/
theorem bindExcept_log {step : LogM α} {next : α → ExceptT ε (StateT σ LogM) β}
    {mid : α → Prop} {post : Except ε β → σ → Prop} (first : After step mid)
    (rest : ∀ a, mid a → Ends (next a).run post s) :
    Ends (liftM step >>= next : ExceptT ε (StateT σ LogM) β).run post s :=
  fun log => rest _ (first log) _

theorem bindExcept_get {next : σ → ExceptT ε (StateT σ LogM) β}
    {post : Except ε β → σ → Prop} (rest : Ends (next s).run post s) :
    Ends (get >>= next : ExceptT ε (StateT σ LogM) β).run post s :=
  fun log => rest log

theorem bindExcept_set {next : PUnit → ExceptT ε (StateT σ LogM) β} {t : σ}
    {post : Except ε β → σ → Prop} (rest : Ends (next ⟨⟩).run post t) :
    Ends (set t >>= next : ExceptT ε (StateT σ LogM) β).run post s :=
  fun log => rest log

/-- A step that cannot fail. -/
theorem bindExcept_step {step : StateT σ LogM α} {next : α → ExceptT ε (StateT σ LogM) β}
    {mid : α → σ → Prop} {post : Except ε β → σ → Prop} (first : Ends step mid s)
    (rest : ∀ a t, mid a t → Ends (next a).run post t) :
    Ends (ExceptT.lift step >>= next).run post s :=
  fun log => rest _ _ (first log) _

/-- A step on the device leaves what is beside it. -/
theorem onDevice {step : StateT σ LogM α} {mid : α → σ → Prop} (h : Ends step mid s) (p : π) :
    Ends (BesideM.onDevice step) (fun a t => mid a t.1 ∧ t.2 = p) (s, p) :=
  fun log => ⟨h log, rfl⟩

theorem onSide (change : π → π) (s : σ) (p : π) :
    Ends (BesideM.onSide change) (fun _ t => t = (s, change p)) (s, p) :=
  fun _ => rfl

end Ends

namespace Gives

variable {σ α β ε : Type} {s t u : σ}

theorem ends {step : StateT σ LogM α} {a : α} {post : α → σ → Prop} (h : Gives step s a t)
    (hp : post a t) : Ends step post s :=
  Ends.mono h (by rintro _ _ ⟨rfl, rfl⟩; exact hp)

/-- What holds of how a step ends holds of the answer and the state that it gives. -/
theorem holds {step : StateT σ LogM α} {a : α} {post : α → σ → Prop} (h : Gives step s a t)
    (ends : Ends step post s) : post a t := by
  have last := ends {}
  obtain ⟨rfl, rfl⟩ := h {}
  exact last

theorem after {step : StateT σ LogM α} {a : α} (h : Gives step s a t) :
    After (step s) (· = (a, t)) :=
  fun log => Prod.ext (h log).1 (h log).2

@[simp] theorem pure_iff {a b : α} : Gives (pure a) s b t ↔ a = b ∧ s = t := Ends.pure_iff

theorem pure (a : α) (s : σ) : Gives (Pure.pure a) s a s := pure_iff.mpr ⟨rfl, rfl⟩

theorem bindEnds {step : StateT σ LogM α} {next : α → StateT σ LogM β} {a : α}
    {post : β → σ → Prop} (first : Gives step s a t) (rest : Ends (next a) post t) :
    Ends (step >>= next) post s :=
  Ends.bind first (by rintro _ _ ⟨rfl, rfl⟩; exact rest)

theorem bind {step : StateT σ LogM α} {next : α → StateT σ LogM β} {a : α} {b : β}
    (first : Gives step s a t) (rest : Gives (next a) t b u) :
    Gives (step >>= next) s b u :=
  bindEnds first rest

/-- What follows a step that succeeds. -/
theorem bindOk {step : ExceptT ε (StateT σ LogM) α}
    {next : α → ExceptT ε (StateT σ LogM) β} {a : α} {post : Except ε β → σ → Prop}
    (first : Gives step.run s (.ok a) t) (rest : Ends (next a).run post t) :
    Ends (step >>= next).run post s :=
  Ends.bindExcept first (by rintro _ _ ⟨h, rfl⟩; cases h; exact rest)
    (by rintro _ _ ⟨h, -⟩; cases h)

end Gives

/-- Steps that end the same whatever stands in the log. -/
def Blind {σ α : Type} (step : StateT σ LogM α) : Prop := ∀ s, ∃ a t, Gives step s a t

namespace Blind

variable {σ α β ε : Type}

theorem pure (a : α) : Blind (Pure.pure a : StateT σ LogM α) := fun s => ⟨a, s, Gives.pure a s⟩

theorem bindExcept {step : ExceptT ε (StateT σ LogM) α} {next : α → ExceptT ε (StateT σ LogM) β}
    (first : Blind step.run) (rest : ∀ a, Blind (next a).run) : Blind (step >>= next).run := by
  intro s
  obtain ⟨outcome, t, given⟩ := first s
  cases outcome with
  | ok a =>
    obtain ⟨b, u, given'⟩ := rest a t
    exact ⟨b, u, given.bindOk given'⟩
  | error e =>
    refine ⟨.error e, t, Ends.bindExcept given ?_ ?_⟩
    · rintro a u ⟨other, -⟩
      cases other
    · rintro e' u ⟨same, rfl⟩
      cases same
      exact ⟨rfl, rfl⟩

theorem bindExcept_lift {text : LogM Unit} {next : Unit → ExceptT ε (StateT σ LogM) β}
    (rest : Blind (next ()).run) :
    Blind (liftM text >>= next : ExceptT ε (StateT σ LogM) β).run := by
  intro s
  obtain ⟨b, t, given⟩ := rest s
  exact ⟨b, t, Ends.bindExcept_lift given⟩

theorem bindExcept_get {next : σ → ExceptT ε (StateT σ LogM) β} (rest : ∀ s, Blind (next s).run) :
    Blind (get >>= next : ExceptT ε (StateT σ LogM) β).run := by
  intro s
  obtain ⟨b, t, given⟩ := rest s s
  exact ⟨b, t, Ends.bindExcept_get given⟩

theorem bindExcept_set {next : PUnit → ExceptT ε (StateT σ LogM) β} (s : σ)
    (rest : Blind (next ⟨⟩).run) : Blind (set s >>= next : ExceptT ε (StateT σ LogM) β).run := by
  intro _
  obtain ⟨b, t, given⟩ := rest s
  exact ⟨b, t, Ends.bindExcept_set given⟩

theorem ite {c : Prop} [Decidable c] {yes no : StateT σ LogM α} (first : Blind yes)
    (second : Blind no) : Blind (if c then yes else no) := by
  split
  · exact first
  · exact second

end Blind

end PlayerLink
