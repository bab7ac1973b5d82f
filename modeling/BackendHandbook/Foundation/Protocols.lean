import BackendHandbook.Foundation.Interleaving

/-! Protocols of threads: the calls that a program makes on what it has been answered,
and the questions it puts right behind a call. -/

namespace BackendHandbook.Interleaving

open List

variable {ι : Type} {ρ : ι → Type} {κ : Type} {α : κ → Type} {τ σ γ : Type}

def Program.Follows (learns : γ → (request : ι) → ρ request → γ) (Allows : γ → ι → Prop)
    (known : γ) : Program ι ρ κ α τ → Prop
  | .done _ => True
  | .call request next => Allows known request ∧
      ∀ response, (next response).Follows learns Allows (learns known request response)
  | .ask _ next => ∀ answer, (next answer).Follows learns Allows known

def Program.waits (counted : κ → Bool) : Program ι ρ κ α τ → Bool
  | .ask question _ => counted question
  | _ => false

def Program.Opened (opens : (request : ι) → ρ request → Bool) (counted : κ → Bool) :
    Program ι ρ κ α τ → Prop
  | .done _ => True
  | .call request next =>
    ∀ response, (next response).waits counted = true → opens request response = true
  | .ask _ next => ∀ answer, (next answer).waits counted = false

def asked (pool : Pool σ ι ρ κ α τ) : Turn ι ρ κ α τ → List κ
  | .start _ => []
  | .resume index _ =>
    match pool.threads[index]? with
    | some (.ask question _) => [question]
    | _ => []

variable (perform : (call : ι) → σ → ρ call × σ)

def questions (pool : Pool σ ι ρ κ α τ) : List (Turn ι ρ κ α τ) → List κ
  | [] => []
  | turn :: turns => asked pool turn ++ questions (step perform pool turn) turns

section Await

variable {ε : Type} {answer : ι → Type}

def await (raised : ε → τ) (request : ι)
    (next : answer request → Program ι (fun call => Except ε (answer call)) κ α τ) :
    Program ι (fun call => Except ε (answer call)) κ α τ :=
  .call request fun
    | .error error => .done (raised error)
    | .ok found => next found

variable {raised : ε → τ} {request : ι}

theorem await_everywhere {P : Program ι (fun call => Except ε (answer call)) κ α τ → Prop}
    {next : answer request → Program ι (fun call => Except ε (answer call)) κ α τ}
    (here : P (await raised request next)) (ended : ∀ result, P (.done result))
    (later : ∀ found, (next found).Everywhere P) : (await raised request next).Everywhere P := by
  refine ⟨here, fun response => ?_⟩
  cases response with
  | error => exact ended _
  | ok => exact later _

theorem await_issues {P : ι → Prop}
    {next : answer request → Program ι (fun call => Except ε (answer call)) κ α τ}
    (here : P request) (later : ∀ found, (next found).Issues P) :
    (await raised request next).Issues P := by
  refine ⟨here, fun response => ?_⟩
  cases response with
  | error => trivial
  | ok => exact later _

theorem await_follows {learns : γ → (request : ι) → Except ε (answer request) → γ}
    {Allows : γ → ι → Prop} {known : γ}
    {next : answer request → Program ι (fun call => Except ε (answer call)) κ α τ}
    (here : Allows known request) (later : ∀ found,
      (next found).Follows learns Allows (learns known request (.ok found))) :
    (await raised request next).Follows learns Allows known := by
  refine ⟨here, fun response => ?_⟩
  cases response with
  | error => trivial
  | ok => exact later _

end Await

theorem mem_issued_trace {pool : Pool σ ι ρ κ α τ} {turn : Turn ι ρ κ α τ}
    {e : Run.Event σ ι ρ} (member : e ∈ Run.trace perform pool.state (issued pool turn)) :
    e.before = pool.state ∧ e.call ∈ issued pool turn := by
  have inside := Run.mem_of_mem_trace perform _ _ e member
  refine ⟨?_, inside⟩
  cases turn with
  | start => cases member
  | resume index =>
    simp only [issued] at member inside
    cases found : pool.threads[index]? with
    | none => rw [found] at member; cases member
    | some thread =>
    rw [found] at member
    cases thread with
    | done | ask => cases member
    | call =>
      rw [mem_singleton.mp member]
      rfl

section Follows

variable {learns : γ → (request : ι) → ρ request → γ} {Allows : γ → ι → Prop}
variable {Inv : σ → Prop} {Agrees : γ → σ → Prop} {initial : γ}

/-- The thread knows something that the state bears out, and goes on by it. -/
def Guided (learns : γ → (request : ι) → ρ request → γ) (Allows : γ → ι → Prop)
    (Agrees : γ → σ → Prop) (state : σ) (thread : Program ι ρ κ α τ) : Prop :=
  ∃ known, Agrees known state ∧ thread.Follows learns Allows known

private theorem step_guided (kept : ∀ request state, Inv state → Inv (perform request state).2)
    (own : ∀ known request state, Inv state → Agrees known state → Allows known request →
      Agrees (learns known request (perform request state).1) (perform request state).2)
    (others : ∀ known other request state, Inv state → Agrees known state →
      Agrees other state → Allows other request → Agrees known (perform request state).2)
    (agrees : ∀ state, Agrees initial state)
    (pool : Pool σ ι ρ κ α τ) (turn : Turn ι ρ κ α τ) (holds : Inv pool.state)
    (threads : ∀ thread ∈ pool.threads, Guided learns Allows Agrees pool.state thread)
    (started : ∀ program, turn = .start program → program.Follows learns Allows initial) :
    Inv (step perform pool turn).state ∧ (∀ request ∈ issued pool turn,
        ∃ known, Agrees known pool.state ∧ Allows known request) ∧
      ∀ thread ∈ (step perform pool turn).threads,
        Guided learns Allows Agrees (step perform pool turn).state thread := by
  cases turn with
  | start program =>
    refine ⟨holds, by simp [issued], fun thread member => ?_⟩
    rcases mem_append.mp member with old | new
    · exact threads thread old
    · rw [mem_singleton.mp new]
      exact ⟨initial, agrees _, started program rfl⟩
  | resume index =>
    simp only [step, issued]
    cases found : pool.threads[index]? with
    | none => exact ⟨holds, by simp, threads⟩
    | some thread =>
    rcases threads thread (mem_of_getElem? found) with ⟨known, bears, follows⟩
    cases thread with
    | done => exact ⟨holds, by simp, threads⟩
    | call request =>
      have allowed : ∃ known, Agrees known pool.state ∧ Allows known request :=
        ⟨known, bears, follows.1⟩
      refine ⟨kept _ _ holds, by simpa using allowed, fun other member => ?_⟩
      rcases mem_or_eq_of_mem_set member with old | rfl
      · rcases threads other old with ⟨remembered, true, goes⟩
        exact ⟨remembered, others _ _ _ _ holds true bears follows.1, goes⟩
      · exact ⟨_, own _ _ _ holds bears follows.1, follows.2 _⟩
    | ask =>
      refine ⟨holds, by simp, fun other member => ?_⟩
      rcases mem_or_eq_of_mem_set member with old | rfl
      · exact threads other old
      · exact ⟨known, bears, follows _⟩

/-- The protocol rule: knowledge that every allowed call keeps true is true at every call. -/
theorem follows_event (kept : ∀ request state, Inv state → Inv (perform request state).2)
    (own : ∀ known request state, Inv state → Agrees known state → Allows known request →
      Agrees (learns known request (perform request state).1) (perform request state).2)
    (others : ∀ known other request state, Inv state → Agrees known state →
      Agrees other state → Allows other request → Agrees known (perform request state).2)
    (agrees : ∀ state, Agrees initial state)
    (pool : Pool σ ι ρ κ α τ) (turns : List (Turn ι ρ κ α τ)) (holds : Inv pool.state)
    (threads : ∀ thread ∈ pool.threads, Guided learns Allows Agrees pool.state thread)
    (started : ∀ program, .start program ∈ turns → program.Follows learns Allows initial) :
    ∀ e ∈ Run.trace perform pool.state (calls perform pool turns),
      ∃ known, Agrees known e.before ∧ Allows known e.call := by
  induction turns generalizing pool with
  | nil => intro e member; cases member
  | cons turn _ ih =>
    obtain ⟨stays, first, guided⟩ :=
      step_guided perform kept own others agrees pool turn holds threads
        (fun program same => started program (by rw [same]; exact mem_cons_self))
    intro e member
    rw [calls, Run.trace_append, ← step_state] at member
    rcases mem_append.mp member with now | later
    · rcases mem_issued_trace perform now with ⟨before, inside⟩
      rw [before]
      exact first e.call inside
    · exact ih _ stays guided
        (fun program inside => started program (mem_cons_of_mem _ inside)) e later

end Follows

section Recalled

variable {Allows : List ((request : ι) × ρ request) → ι → Prop}

def Program.Recalls (Allows : List ((request : ι) × ρ request) → ι → Prop)
    (known : List ((request : ι) × ρ request)) (program : Program ι ρ κ α τ) : Prop :=
  program.Follows (fun known request response => ⟨request, response⟩ :: known) Allows known

def Recorded (past : List (Run.Event σ ι ρ)) (known : List ((request : ι) × ρ request)) : Prop :=
  ∀ fact ∈ known, ∃ e ∈ past, (⟨e.call, e.response⟩ : (request : ι) × ρ request) = fact

theorem Recorded.mono {past more : List (Run.Event σ ι ρ)}
    {known : List ((request : ι) × ρ request)} (recorded : Recorded past known) :
    Recorded (past ++ more) known := by
  intro fact member
  rcases recorded fact member with ⟨e, inside, same⟩
  exact ⟨e, mem_append_left more inside, same⟩

private theorem step_recalled (past : List (Run.Event σ ι ρ)) (pool : Pool σ ι ρ κ α τ)
    (turn : Turn ι ρ κ α τ) (threads : ∀ thread ∈ pool.threads, ∃ known, Recorded past known ∧
      thread.Recalls Allows known)
    (started : ∀ program, turn = .start program → program.Recalls Allows []) :
    (∀ request ∈ issued pool turn, ∃ known, Recorded past known ∧ Allows known request) ∧
      ∀ thread ∈ (step perform pool turn).threads, ∃ known,
        Recorded (past ++ Run.trace perform pool.state (issued pool turn)) known ∧
          thread.Recalls Allows known := by
  cases turn with
  | start program =>
    refine ⟨by simp [issued], fun thread member => ?_⟩
    rcases mem_append.mp member with old | new
    · rcases threads thread old with ⟨known, recorded, recalls⟩
      exact ⟨known, recorded.mono, recalls⟩
    · rw [mem_singleton.mp new]
      exact ⟨[], fun fact nothing => (by cases nothing), started program rfl⟩
  | resume index =>
    simp only [step, issued]
    have stay : ∀ more : List (Run.Event σ ι ρ), ∀ thread ∈ pool.threads, ∃ known,
        Recorded (past ++ more) known ∧ thread.Recalls Allows known := by
      intro more thread member
      rcases threads thread member with ⟨known, recorded, recalls⟩
      exact ⟨known, recorded.mono, recalls⟩
    cases found : pool.threads[index]? with
    | none => exact ⟨by simp, stay _⟩
    | some thread =>
    rcases threads thread (mem_of_getElem? found) with ⟨known, recorded, recalls⟩
    cases thread with
    | done => exact ⟨by simp, stay _⟩
    | call request =>
      have allowed : ∃ known, Recorded past known ∧ Allows known request :=
        ⟨known, recorded, recalls.1⟩
      refine ⟨by simpa using allowed, fun other member => ?_⟩
      rcases mem_or_eq_of_mem_set member with old | rfl
      · exact stay _ other old
      · refine ⟨_, ?_, recalls.2 (perform request pool.state).1⟩
        intro fact inside
        rcases mem_cons.mp inside with rfl | before
        · exact ⟨Run.event perform pool.state request, mem_append_right past mem_cons_self, rfl⟩
        · exact recorded.mono fact before
    | ask =>
      refine ⟨by simp, fun other member => ?_⟩
      rcases mem_or_eq_of_mem_set member with old | rfl
      · exact stay _ other old
      · exact ⟨known, recorded.mono, recalls _⟩

private theorem issued_cases (pool : Pool σ ι ρ κ α τ) (turn : Turn ι ρ κ α τ) :
    issued pool turn = [] ∨ ∃ request, issued pool turn = [request] := by
  cases turn with
  | start => exact .inl rfl
  | resume index =>
    simp only [issued]
    cases pool.threads[index]? with
    | none => exact .inl rfl
    | some thread =>
      cases thread with
      | done | ask => exact .inl rfl
      | call request => exact .inr ⟨request, rfl⟩

/-- The recall rule: each call is allowed by answers that earlier events have given. -/
theorem recalled (past : List (Run.Event σ ι ρ)) (pool : Pool σ ι ρ κ α τ)
    (turns : List (Turn ι ρ κ α τ))
    (threads : ∀ thread ∈ pool.threads, ∃ known, Recorded past known ∧ thread.Recalls Allows known)
    (started : ∀ program, .start program ∈ turns → program.Recalls Allows [])
    (front : List (Run.Event σ ι ρ)) (e : Run.Event σ ι ρ) (back : List (Run.Event σ ι ρ))
    (split : Run.trace perform pool.state (calls perform pool turns) = front ++ e :: back) :
    ∃ known, Recorded (past ++ front) known ∧ Allows known e.call := by
  induction turns generalizing past pool front with
  | nil => exact absurd split.symm (by simp [calls, Run.trace])
  | cons turn _ ih =>
    rcases step_recalled perform past pool turn threads
      (fun program same => started program (by rw [same]; exact mem_cons_self)) with
      ⟨first, goes⟩
    have later := fun program inside => started program (mem_cons_of_mem turn inside)
    rw [calls, Run.trace_append, ← step_state] at split
    rcases issued_cases pool turn with idle | ⟨request, moved⟩
    · rw [idle] at split goes
      rw [Run.trace, append_nil] at goes
      exact ih past _ goes later front split
    · rw [moved] at split goes first
      cases front with
      | nil =>
        rcases List.cons.inj split with ⟨here, _⟩
        rw [append_nil, ← here]
        exact first request mem_cons_self
      | cons _ front =>
        rcases List.cons.inj split with ⟨here, rest⟩
        have recalls := ih _ _ goes later front rest
        rw [← here, ← singleton_append, ← append_assoc]
        exact recalls

end Recalled

section Opened

@[simp] theorem waits_call (counted : κ → Bool) (request : ι)
    (next : ρ request → Program ι ρ κ α τ) : (Program.call request next).waits counted = false :=
  rfl

@[simp] theorem waits_ask (counted : κ → Bool) (question : κ)
    (next : α question → Program ι ρ κ α τ) :
    (Program.ask question next).waits counted = counted question :=
  rfl

variable {opens : (request : ι) → ρ request → Bool} {counted : κ → Bool}

/-- The program does not wait at a counted question, and comes to one by opening calls only. -/
def Program.Quiet (opens : (request : ι) → ρ request → Bool) (counted : κ → Bool)
    (program : Program ι ρ κ α τ) : Prop :=
  program.waits counted = false ∧ program.Everywhere (Program.Opened opens counted)

theorem done_quiet (result : τ) : (Program.done result : Program ι ρ κ α τ).Quiet opens counted :=
  ⟨rfl, trivial⟩

theorem ask_quiet {question : κ} {next : α question → Program ι ρ κ α τ}
    (uncounted : counted question = false) (later : ∀ answer, (next answer).Quiet opens counted) :
    (Program.ask question next).Quiet opens counted :=
  ⟨uncounted, fun answer => (later answer).1, fun answer => (later answer).2⟩

theorem call_quiet {request : ι} {next : ρ request → Program ι ρ κ α τ}
    (later : ∀ response, (next response).Quiet opens counted) :
    (Program.call request next).Quiet opens counted := by
  refine ⟨rfl, ?_, fun response => (later response).2⟩
  intro response waits
  exact absurd ((later response).1.symm.trans waits) (by decide)

section Await

variable {ε : Type} {answer : ι → Type} {raised : ε → τ} {request : ι}
variable {opens : (request : ι) → Except ε (answer request) → Bool}

theorem await_quiet {next : answer request → Program ι (fun call => Except ε (answer call)) κ α τ}
    (later : ∀ found, (next found).Quiet opens counted) :
    (await raised request next).Quiet opens counted := by
  refine ⟨rfl, await_everywhere ?_ (fun _ => trivial) fun found => (later found).2⟩
  intro response waits
  cases response with
  | error => cases waits
  | ok found =>
    have idle : (next found).waits counted = false := (later found).1
    exact absurd (idle.symm.trans waits) (by decide)

/-- The call that opens the question right behind it. -/
theorem opening_quiet {question : answer request → κ}
    {next : (found : answer request) → α (question found) →
      Program ι (fun call => Except ε (answer call)) κ α τ}
    (opening : ∀ found, counted (question found) = true → opens request (.ok found) = true)
    (later : ∀ found reply, (next found reply).Quiet opens counted) :
    (await raised request fun found => .ask (question found) (next found)).Quiet opens counted := by
  refine ⟨rfl, await_everywhere ?_ (fun _ => trivial) fun found => ?_⟩
  · intro response waits
    cases response with
    | error => cases waits
    | ok => exact opening _ waits
  · exact ⟨fun reply => (later found reply).1, fun reply => (later found reply).2⟩

end Await

def waiting (counted : κ → Bool) (pool : Pool σ ι ρ κ α τ) : Nat :=
  pool.threads.countP (·.waits counted)

/-- A thread that goes on exchanges its own share of the waiting ones. -/
private theorem waiting_set {threads : List (Program ι ρ κ α τ)} {index : Nat}
    {old : Program ι ρ κ α τ} (found : threads[index]? = some old) (next : Program ι ρ κ α τ) :
    (threads.set index next).countP (·.waits counted) + (old.waits counted).toNat =
      threads.countP (·.waits counted) + (next.waits counted).toNat := by
  rcases List.getElem?_eq_some_iff.mp found with ⟨inside, same⟩
  have listed : old.waits counted = true → 0 < threads.countP (·.waits counted) :=
    fun waits => countP_pos_iff.mpr ⟨old, mem_of_getElem? found, waits⟩
  rw [countP_set inside, same]
  cases waits : old.waits counted with
  | false =>
    cases next.waits counted <;> simp
  | true =>
    have share := listed waits
    cases next.waits counted <;> simp <;> omega

private theorem step_waiting (pool : Pool σ ι ρ κ α τ) (turn : Turn ι ρ κ α τ)
    (threads : ∀ thread ∈ pool.threads, thread.Everywhere (Program.Opened opens counted))
    (started : ∀ program, turn = .start program → program.Quiet opens counted) :
    (asked pool turn).countP counted + waiting counted (step perform pool turn) ≤
        waiting counted pool + (Run.trace perform pool.state (issued pool turn)).countP
          (fun e => opens e.call e.response) ∧ ∀ thread ∈ (step perform pool turn).threads,
        thread.Everywhere (Program.Opened opens counted) := by
  cases turn with
  | start program =>
    rcases started program rfl with ⟨idle, opened⟩
    constructor
    · simp only [waiting, step, asked, countP_append, countP_singleton, idle]
      simp
    · intro thread member
      rcases mem_append.mp member with old | new
      · exact threads thread old
      · rw [mem_singleton.mp new]
        exact opened
  | resume index oracle =>
    simp only [waiting, step, asked, issued]
    cases found : pool.threads[index]? with
    | none => exact ⟨by simp [Run.trace], threads⟩
    | some thread =>
    have opened := threads thread (mem_of_getElem? found)
    cases thread with
    | done => exact ⟨by simp [Run.trace], threads⟩
    | call request next =>
      constructor
      · have here : (next (perform request pool.state).1).waits counted = true →
            opens request (perform request pool.state).1 = true := opened.1 _
        have count := @waiting_set _ _ _ _ _ counted _ _ _ found
          (next (perform request pool.state).1)
        simp only [countP_nil, Run.trace, Run.event, countP_singleton]
        cases waits : (next (perform request pool.state).1).waits counted with
        | false =>
          rw [waits, Bool.toNat_false] at count
          omega
        | true =>
          rw [waits, Bool.toNat_true] at count
          rw [if_pos (here waits)]
          omega
      · intro other member
        rcases mem_or_eq_of_mem_set member with old | rfl
        · exact threads other old
        · exact opened.2 _
    | ask question next =>
      constructor
      · have here : (next (oracle question)).waits counted = false := opened.1 _
        have count := @waiting_set _ _ _ _ _ counted _ _ _ found (next (oracle question))
        rw [waits_ask, here, Bool.toNat_false] at count
        simp only [countP_singleton]
        cases counts : counted question with
        | false =>
          simp only [Bool.false_eq_true, if_false]
          omega
        | true =>
          rw [counts, Bool.toNat_true] at count
          rw [if_pos rfl]
          omega
      · intro other member
        rcases mem_or_eq_of_mem_set member with old | rfl
        · exact threads other old
        · exact opened.2 _

/-- Counted questions are put no more often than calls have opened them. -/
theorem asked_le_opened (pool : Pool σ ι ρ κ α τ) (turns : List (Turn ι ρ κ α τ))
    (threads : ∀ thread ∈ pool.threads, thread.Everywhere (Program.Opened opens counted))
    (started : ∀ program, .start program ∈ turns → program.Quiet opens counted) :
    (questions perform pool turns).countP counted ≤
      waiting counted pool + (Run.trace perform pool.state (calls perform pool turns)).countP
        (fun e => opens e.call e.response) := by
  induction turns generalizing pool with
  | nil => exact Nat.zero_le _
  | cons turn _ ih =>
    obtain ⟨_, kept⟩ := step_waiting perform pool turn threads
      (fun program same => started program (by rw [same]; exact mem_cons_self))
    have later := ih (step perform pool turn) kept
      (fun program inside => started program (mem_cons_of_mem _ inside))
    rw [step_state] at later
    rw [questions, calls, Run.trace_append, countP_append, countP_append]
    omega

end Opened

end BackendHandbook.Interleaving
