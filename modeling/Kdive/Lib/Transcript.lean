import Kdive.Lib.Program

/-!
# What a program says to its surroundings

A *transcript* is the calls of one execution in order, each with its response.
`Leaves` is the relation between a program, a transcript of it and its result, whatever the
surroundings respond.  Its equations (`leaves_bind`, `leaves_rescue` and the others) take a
transcript apart along the text of the program.

*Fences.*  A fold over a transcript says what it has come to, and `Fenced` that every exchange
was allowed by what came before it.  Under `Rule.watched` a program is taken apart with the fold
for a ghost state.
-/

namespace Program

/-- A call and its response. -/
structure Exchange {Op : Type} (Resp : Op → Type) (ε : Type) where
  op : Op
  response : Except ε (Resp op)

variable {Op : Type} {Resp : Op → Type} {ε α β : Type}

namespace Prog

/-! ## Transcripts -/

/-- A program may leave this transcript and come to this result. -/
inductive Leaves : Prog Resp ε α → List (Exchange Resp ε) → Except ε α → Prop
  | ret (a : α) : Leaves (.ret a) [] (.ok a)
  | raise (e : ε) : Leaves (.raise e) [] (.error e)
  | call {o : Op} {next : Except ε (Resp o) → Prog Resp ε α} {r : Except ε (Resp o)}
      {said : List (Exchange Resp ε)} {result : Except ε α} (h : Leaves (next r) said result) :
      Leaves (.call o next) (⟨o, r⟩ :: said) result

/-- The transcript of an execution against a handler. -/
def transcript {W : Type} (exec : (o : Op) → W → Except ε (Resp o) × W) :
    Prog Resp ε α → W → List (Exchange Resp ε)
  | .ret _, _ | .raise _, _ => []
  | .call o next, w => ⟨o, (exec o w).1⟩ :: (next (exec o w).1).transcript exec (exec o w).2

/-- A handler is one of the surroundings. -/
theorem leaves_run {W : Type} (exec : (o : Op) → W → Except ε (Resp o) × W)
    (p : Prog Resp ε α) (w : W) : p.Leaves (p.transcript exec w) (p.run exec w).1 := by
  induction p generalizing w with
  | ret a => exact .ret a
  | raise e => exact .raise e
  | call o next ih => exact .call (ih _ _)

variable {said : List (Exchange Resp ε)} {result : Except ε α}

@[simp] theorem leaves_ret {a : α} :
    (.ret a : Prog Resp ε α).Leaves said result ↔ said = [] ∧ result = .ok a := by
  constructor
  · intro h
    cases h
    exact ⟨rfl, rfl⟩
  · rintro ⟨rfl, rfl⟩
    exact .ret a

@[simp] theorem leaves_pure {a : α} :
    (pure a : Prog Resp ε α).Leaves said result ↔ said = [] ∧ result = .ok a := leaves_ret

@[simp] theorem leaves_raise {e : ε} :
    (.raise e : Prog Resp ε α).Leaves said result ↔ said = [] ∧ result = .error e := by
  constructor
  · intro h
    cases h
    exact ⟨rfl, rfl⟩
  · rintro ⟨rfl, rfl⟩
    exact .raise e

@[simp] theorem leaves_call {o : Op} {next : Except ε (Resp o) → Prog Resp ε α} :
    (Prog.call o next).Leaves said result ↔
      ∃ r more, said = ⟨o, r⟩ :: more ∧ (next r).Leaves more result := by
  constructor
  · intro h
    cases h with
    | call h => exact ⟨_, _, rfl, h⟩
  · rintro ⟨r, more, rfl, h⟩
    exact .call h

@[simp] theorem leaves_perform {o : Op} {result : Except ε (Resp o)} :
    (perform o : Prog Resp ε (Resp o)).Leaves said result ↔ said = [⟨o, result⟩] := by
  rw [perform, leaves_call]
  constructor
  · rintro ⟨r, more, rfl, h⟩
    cases r <;> simp_all
  · rintro rfl
    exact ⟨result, [], rfl, by cases result <;> simp⟩

/-- A sequence ends where its first part raises, or goes on with its second. -/
theorem leaves_bind {p : Prog Resp ε α} {f : α → Prog Resp ε β} {result : Except ε β} :
    (p >>= f).Leaves said result ↔
      (∃ e, p.Leaves said (.error e) ∧ result = .error e) ∨
        ∃ a before after, p.Leaves before (.ok a) ∧ (f a).Leaves after result ∧
          said = before ++ after := by
  induction p generalizing said with
  | ret a =>
      constructor
      · exact fun h => .inr ⟨a, [], said, .ret a, h, rfl⟩
      · rintro (⟨e, h, -⟩ | ⟨a', before, after, h, hf, rfl⟩)
        · cases h
        · cases h
          exact hf
  | raise e =>
      constructor
      · intro h
        obtain ⟨rfl, rfl⟩ := leaves_raise.mp h
        exact .inl ⟨e, .raise e, rfl⟩
      · rintro (⟨e', h, rfl⟩ | ⟨a', before, after, h, -⟩)
        · cases h
          exact .raise e
        · cases h
  | call o next ih =>
      simp only [call_bind, leaves_call, ih]
      constructor
      · rintro ⟨r, more, rfl, ⟨e, h, rfl⟩ | ⟨a, before, after, h, hf, rfl⟩⟩
        · exact .inl ⟨e, ⟨r, more, rfl, h⟩, rfl⟩
        · exact .inr ⟨a, _, after, ⟨r, before, rfl, h⟩, hf, rfl⟩
      · rintro (⟨e, ⟨r, more, rfl, h⟩, rfl⟩ | ⟨a, _, after, ⟨r, before, rfl, h⟩, hf, rfl⟩)
        · exact ⟨r, more, rfl, .inl ⟨e, h, rfl⟩⟩
        · exact ⟨r, before ++ after, rfl, .inr ⟨a, before, after, h, hf, rfl⟩⟩

/-- A sequence returns where both of its parts do. -/
theorem leaves_bind_ok {p : Prog Resp ε α} {f : α → Prog Resp ε β} {b : β} :
    (p >>= f).Leaves said (.ok b) ↔
      ∃ a before after, p.Leaves before (.ok a) ∧ (f a).Leaves after (.ok b) ∧
        said = before ++ after := by
  rw [leaves_bind]
  constructor
  · rintro (⟨e, -, hraise⟩ | h)
    · cases hraise
    · exact h
  · exact .inr

/-- A sequence that begins with a call. -/
@[simp] theorem leaves_perform_bind {o : Op} {f : Resp o → Prog Resp ε α} :
    (perform o >>= f).Leaves said result ↔
      (∃ e, said = [⟨o, .error e⟩] ∧ result = .error e) ∨
        ∃ a more, said = ⟨o, .ok a⟩ :: more ∧ (f a).Leaves more result := by
  rw [leaves_bind]
  simp only [leaves_perform]
  constructor
  · rintro (h | ⟨a, before, after, rfl, h, rfl⟩)
    · exact .inl h
    · exact .inr ⟨a, after, rfl, h⟩
  · rintro (h | ⟨a, more, rfl, h⟩)
    · exact .inl h
    · exact .inr ⟨a, _, more, rfl, h, rfl⟩

/-- It returns where the call responds and the rest returns. -/
theorem leaves_perform_bind_ok {o : Op} {f : Resp o → Prog Resp ε α} {b : α} :
    (perform o >>= f).Leaves said (.ok b) ↔
      ∃ a more, said = ⟨o, .ok a⟩ :: more ∧ (f a).Leaves more (.ok b) := by
  rw [leaves_perform_bind]
  constructor
  · rintro (⟨e, -, hraise⟩ | h)
    · cases hraise
    · exact h
  · exact .inr

@[simp] theorem leaves_attempt {p : Prog Resp ε α} {result : Except ε (Except ε α)} :
    p.attempt.Leaves said result ↔ ∃ r, result = .ok r ∧ p.Leaves said r := by
  induction p generalizing said with
  | ret a =>
      constructor
      · intro h
        obtain ⟨rfl, rfl⟩ := leaves_ret.mp h
        exact ⟨.ok a, rfl, .ret a⟩
      · rintro ⟨r, rfl, h⟩
        cases h
        exact .ret _
  | raise e =>
      constructor
      · intro h
        obtain ⟨rfl, rfl⟩ := leaves_ret.mp h
        exact ⟨.error e, rfl, .raise e⟩
      · rintro ⟨r, rfl, h⟩
        cases h
        exact .ret _
  | call o next ih =>
      simp only [attempt, leaves_call, ih]
      constructor
      · rintro ⟨r, more, rfl, r', rfl, h⟩
        exact ⟨r', rfl, r, more, rfl, h⟩
      · rintro ⟨r', rfl, r, more, rfl, h⟩
        exact ⟨r, more, rfl, r', rfl, h⟩

/-- What comes behind an attempt goes on with its result. -/
theorem leaves_attempt_bind {p : Prog Resp ε α} {f : Except ε α → Prog Resp ε β}
    {result : Except ε β} :
    (p.attempt >>= f).Leaves said result ↔
      ∃ r before after, p.Leaves before r ∧ (f r).Leaves after result ∧ said = before ++ after := by
  rw [leaves_bind]
  simp only [leaves_attempt]
  constructor
  · rintro (⟨e, ⟨r, hr, -⟩, -⟩ | ⟨r, before, after, ⟨r', hr, h⟩, hafter, rfl⟩)
    · cases hr
    · obtain rfl := Except.ok.inj hr
      exact ⟨r, before, after, h, hafter, rfl⟩
  · rintro ⟨r, before, after, h, hafter, rfl⟩
    exact .inr ⟨r, before, after, ⟨r, rfl, h⟩, hafter, rfl⟩

/-- `try/except` returns what its body returns, or goes on with the handler. -/
theorem leaves_rescue {p : Prog Resp ε α} {handler : ε → Prog Resp ε α} :
    (p.rescue handler).Leaves said result ↔
      (∃ a, p.Leaves said (.ok a) ∧ result = .ok a) ∨
        ∃ e before after, p.Leaves before (.error e) ∧ (handler e).Leaves after result ∧
          said = before ++ after := by
  rw [rescue, leaves_attempt_bind]
  constructor
  · rintro ⟨r, before, after, h, hafter, rfl⟩
    cases r with
    | ok a =>
        obtain ⟨rfl, rfl⟩ := leaves_ret.mp hafter
        exact .inl ⟨a, (List.append_nil before).symm ▸ h, rfl⟩
    | error e => exact .inr ⟨e, before, after, h, hafter, rfl⟩
  · rintro (⟨a, h, rfl⟩ | ⟨e, before, after, h, hafter, rfl⟩)
    · exact ⟨.ok a, said, [], h, .ret a, (List.append_nil said).symm⟩
    · exact ⟨.error e, before, after, h, hafter, rfl⟩

/-- A transcript holds what its program may call. -/
theorem Leaves.calls {P : Op → Prop} {p : Prog Resp ε α} (h : p.Leaves said result)
    (hp : p.Calls P) : ∀ x ∈ said, P x.op := by
  induction h with
  | ret a => exact fun x hx => nomatch hx
  | raise e => exact fun x hx => nomatch hx
  | call _ ih =>
      intro x hx
      rcases List.mem_cons.mp hx with rfl | hx
      · exact hp.1
      · exact ih (hp.2 _) x hx

/-! ## Fences -/

section Fences

variable {M : Type} (step : M → Exchange Resp ε → M) (Allowed : M → Exchange Resp ε → Prop)

/-- Every exchange is allowed by what came before it. -/
def Fenced : M → List (Exchange Resp ε) → Prop
  | _, [] => True
  | m, x :: more => Allowed m x ∧ Fenced (step m x) more

variable {step Allowed} {m : M} {more : List (Exchange Resp ε)}

theorem fenced_append :
    Fenced step Allowed m (said ++ more) ↔
      Fenced step Allowed m said ∧ Fenced step Allowed (said.foldl step m) more := by
  induction said generalizing m with
  | nil => simp [Fenced]
  | cons x said ih => simp [Fenced, ih, and_assoc]

/-- An exchange of a fenced transcript is allowed. -/
theorem Fenced.allowed {before after : List (Exchange Resp ε)} {x : Exchange Resp ε}
    (h : Fenced step Allowed m (before ++ x :: after)) : Allowed (before.foldl step m) x :=
  (fenced_append.mp h).2.1

/-- Exchanges that keep a statement and are allowed by it. -/
theorem fenced_of_keeps {K : M → Prop} (hm : K m)
    (hkeeps : ∀ x ∈ said, ∀ m, K m → Allowed m x ∧ K (step m x)) :
    Fenced step Allowed m said ∧ K (said.foldl step m) := by
  induction said generalizing m with
  | nil => exact ⟨trivial, hm⟩
  | cons x said ih =>
      obtain ⟨hallowed, hstep⟩ := hkeeps x (.head _) m hm
      obtain ⟨hrest, hend⟩ := ih hstep fun y hy => hkeeps y (.tail _ hy)
      exact ⟨⟨hallowed, hrest⟩, hend⟩

/-- A program under watch: whatever an operation responds, the exchange is allowed and the watch
goes on. -/
def Rule.watched (step : M → Exchange Resp ε → M) (Allowed : M → Exchange Resp ε → Prop) :
    Rule Resp ε M :=
  fun o Q m => ∀ r, Allowed m ⟨o, r⟩ ∧ Q r (step m ⟨o, r⟩)

theorem Rule.watched_mono : (Rule.watched step Allowed).Mono :=
  fun _ _ _ _ h hQ r => ⟨(hQ r).1, h _ _ (hQ r).2⟩

/-- What is shown under watch holds of every transcript. -/
theorem Leaves.watched {p : Prog Resp ε α} (h : p.Leaves said result)
    {Q : Except ε α → M → Prop} (hp : p.wp (Rule.watched step Allowed) Q m) :
    Fenced step Allowed m said ∧ Q result (said.foldl step m) := by
  induction h generalizing m with
  | ret a => exact ⟨trivial, hp⟩
  | raise e => exact ⟨trivial, hp⟩
  | call _ ih =>
      obtain ⟨hallowed, hnext⟩ := hp _
      obtain ⟨hfenced, hresult⟩ := ih hnext
      exact ⟨⟨hallowed, hfenced⟩, hresult⟩

end Fences

end Prog

end Program
