import Tracing.Proofs.Delivery.AnySender
/-!
No sender stops a reporter, but by a loss below zero. Whatever a sender answers or raises, the
worker starts the accepted commands in order and goes on until it has finished or its queue is given
up, and no call of the reporter raises. The exception is a loss below zero that a sender names for a
flush or for its closing: the counter of failures refuses it.
-/

set_option autoImplicit false
set_option relaxedAutoImplicit false

namespace Tracing

def Worker.kind? : Worker → Option CommandKind
  | appending _ => some .append
  | sending kind _ => some kind
  | _ => none

/-- How many steps a worker may need before it waits again. -/
def Worker.stage : Worker → Nat
  | holding _ => 5
  | bound _ => 4
  | appending _ => 3
  | sending .. => 2
  | looking => 1
  | waiting | ended => 0

private theorem Worker.inHand_of_kind? {worker : Worker} {kind : CommandKind}
    (busy : worker.kind? = some kind) : worker.inHand = [] := by
  cases worker <;> first | rfl | cases busy

private theorem Worker.stage_after (kind : CommandKind) : (after kind).stage ≤ 1 := by
  cases kind <;> simp [after, stage]

private theorem Worker.lt_stage_of_kind? {worker : Worker} {kind : CommandKind}
    (busy : worker.kind? = some kind) : 1 < worker.stage ∧ worker.stage < 4 := by
  cases worker with
  | appending | sending => simp [stage]
  | looking | waiting | holding | bound | ended => cases busy

namespace RemoteReporter

/-- A worker that has ended, or waits on an empty queue. -/
def Rests (r : RemoteReporter) : Prop := r.worker = .ended ∨ r.worker = .waiting ∧ r.queue = []

/-- What one step of the worker can do, whatever the sender does. -/
inductive Worked (r : RemoteReporter) (p : Reply) : RemoteReporter → Prop
  | idle : r.Rests → Worked r p r
  | take {command : Command} {rest : List Command} : r.worker = .waiting →
      r.queue = command :: rest →
      Worked r p { r with queue := rest, worker := .holding command }
  | look : r.worker = .looking → r.abandoned = false → Worked r p { r with worker := .waiting }
  | stop : r.worker = .looking → r.abandoned = true → Worked r p { r with worker := .ended }
  | bind {command : Command} : r.worker = .holding command → r.abandoned = false →
      Worked r p { r with worker := .bound command }
  | quit {command : Command} : r.worker = .holding command → r.abandoned = true →
      Worked r p { r with worker := .ended }
  | start {command : Command} {sender : Sender} {worker : Worker} {failing : Failing} :
      r.worker = .bound command → worker = .looking ∨ worker.kind? = some command.kind →
      Worked r p { r with sender, worker, failing }
  | goOn {due : Nat} {batch : List Span} : r.worker = .appending due →
      Worked r p { r with sender := p.sender, worker := .sending .append batch }
  | finish {kind : CommandKind} {sender : Sender} {failing : Failing} :
      r.worker.kind? = some kind →
      Worked r p { r with sender, worker := .after kind, failing }
  | lose {kind : CommandKind} {batch : List Span} : r.worker = .sending kind batch →
      kind ≠ .append → p.Undercuts r.metered →
      Worked r p { r with sender := p.sender, worker := .ended }

/-- What is still to be done takes so many steps of the worker at most. -/
def remaining (r : RemoteReporter) : Nat := 6 * r.queue.length + r.worker.stage

variable {r : RemoteReporter} {p : Reply} {h : Host}

/-- Only what a sender raises as its own names a loss below zero, and not for an append. -/
theorem sender_of_lostSpans {kind : CommandKind} {f : Fault} (negative : lostSpans kind f < 0) :
    kind ≠ .append ∧ ∃ text loss cause, f = .failure (.sender text loss cause) ∧ loss < 0 := by
  unfold lostSpans at negative
  split at negative
  case h_1 => omega
  case h_2 text loss cause other =>
    exact ⟨fun append => other append, text, loss, cause, rfl, negative⟩
  case h_3 => omega
  case h_4 => omega

private theorem worked_bound {command : Command} (worker : r.worker = .bound command) :
    Worked r p (r.workWith p h).1 := by
  rw [workWith_of_bound p h worker]
  cases command with
  | flush | close => exact .start worker (.inr rfl)
  | append span =>
    unfold startWith
    cases answer : p.answer with
    | ok due => exact .start worker (.inr rfl)
    | error f =>
      dsimp only
      rcases Delivery.conclude_error { r with sender := p.sender } .append f (p.leave h) with
        ⟨-, negative, -⟩ | ⟨failing, host, booked, -, -⟩
      · exact absurd rfl (sender_of_lostSpans negative).1
      · rw [booked]
        exact .start worker (.inl rfl)

private theorem worked_sending {kind : CommandKind} {batch : List Span}
    (worker : r.worker = .sending kind batch) : Worked r p (r.workWith p h).1 := by
  have busy : r.worker.kind? = some kind := by rw [worker]; rfl
  rw [workWith_of_sending p h worker]
  cases booked : p.outcome r.metered with
  | ok sent => exact .finish busy
  | error f =>
    rcases Delivery.conclude_error { r with sender := p.sender } kind f (p.leave h) with
      ⟨metered, negative, ended⟩ | ⟨failing, host, ended, -, -⟩
    · rw [ended]
      obtain ⟨other, text, loss, cause, rfl, below⟩ := sender_of_lostSpans negative
      have answer := Reply.outcome_eq_sender.mp booked
      exact .lose worker other ⟨metered, text, loss, cause, answer, below⟩
    · rw [ended]
      exact .finish busy

theorem worked_workWith (r : RemoteReporter) (p : Reply) (h : Host) :
    Worked r p (r.workWith p h).1 := by
  cases worker : r.worker with
  | ended =>
    have idle : r.workWith p h = (r, h) := by simp [workWith, proceed, worker]
    rw [idle]
    exact .idle (.inl worker)
  | waiting =>
    cases queue : r.queue with
    | nil =>
      have idle : r.workWith p h = (r, h) := by simp [workWith, take, worker, queue]
      rw [idle]
      exact .idle (.inr ⟨worker, queue⟩)
    | cons command rest =>
      have taken : r.workWith p h =
          ({ r with queue := rest, worker := .holding command }, h) := by
        simp [workWith, take, worker, queue]
      rw [taken]
      exact .take worker queue
  | looking =>
    cases given : r.abandoned with
    | true =>
      have ends : r.workWith p h = ({ r with worker := .ended }, h) := by
        simp [workWith, proceed, worker, given]
      rw [ends]
      exact .stop worker given
    | false =>
      have waits : r.workWith p h = ({ r with worker := .waiting }, h) := by
        simp [workWith, proceed, worker, given]
      rw [waits]
      exact .look worker given
  | holding command =>
    cases given : r.abandoned with
    | true =>
      have ends : r.workWith p h = ({ r with worker := .ended }, h) := by
        simp [workWith, proceed, worker, given]
      rw [ends]
      exact .quit worker given
    | false =>
      have binds : r.workWith p h = ({ r with worker := .bound command }, h) := by
        simp [workWith, proceed, worker, given]
      rw [binds]
      exact .bind worker given
  | bound command => exact worked_bound worker
  | appending due =>
    by_cases none : due = 0
    · subst none
      rw [workWith_of_kept p h worker]
      exact .finish (by rw [worker]; rfl)
    · rw [workWith_of_due p h worker none]
      exact .goOn worker
  | sending kind batch => exact worked_sending worker

private theorem Worked.abandoned {r' : RemoteReporter} (worked : r.Worked p r') :
    r'.abandoned = r.abandoned := by
  cases worked <;> rfl

private theorem Worked.remaining_lt {r' : RemoteReporter} (worked : r.Worked p r') :
    r.Rests ∧ r' = r ∨ r'.remaining < r.remaining := by
  unfold remaining
  cases worked with
  | idle rests => exact .inl ⟨rests, rfl⟩
  | take worker queue =>
    right
    simp only [worker, queue, Worker.stage, List.length_cons]
    omega
  | look worker | stop worker | bind worker | quit worker | goOn worker =>
    right
    simp only [worker, Worker.stage]
    omega
  | @start command sender worker' failing worker runs =>
    right
    have few : worker'.stage < 4 := by
      rcases runs with rfl | busy
      · simp [Worker.stage]
      · exact (Worker.lt_stage_of_kind? busy).2
    simp only [worker, Worker.stage] at few ⊢
    omega
  | @finish kind sender failing busy =>
    right
    have some := (Worker.lt_stage_of_kind? busy).1
    have few := Worker.stage_after kind
    dsimp only
    omega
  | lose worker =>
    right
    simp only [worker, Worker.stage]
    omega

private theorem Rests.workWith (rests : r.Rests) (p : Reply) (h : Host) : r.workWith p h =
    (r, h) := by
  rcases rests with worker | ⟨worker, queue⟩
  · simp [RemoteReporter.workWith, proceed, worker]
  · simp [RemoteReporter.workWith, take, worker, queue]

private theorem rests_of_remaining (none : r.remaining = 0) : r.Rests := by
  have queue : r.queue = [] := List.eq_nil_of_length_eq_zero (by unfold remaining at none; omega)
  have stage : r.worker.stage = 0 := by unfold remaining at none; omega
  cases worker : r.worker with
  | ended => exact .inl worker
  | waiting => exact .inr ⟨worker, queue⟩
  | looking | holding | bound | appending | sending => simp [worker, Worker.stage] at stage

/-- A reporter after a caller's command, which a full or closed queue does not take. -/
def asked (r : RemoteReporter) (command : Command) : RemoteReporter :=
  if r.refuses then r else { r with queue := r.queue ++ [command] }

theorem offer_reporter (r : RemoteReporter) (span : Span) (h : Host) :
    (r.offer span h).1 = r.asked (.append span) := by
  unfold offer asked
  split <;> rfl

theorem tick_reporter (r : RemoteReporter) (h : Host) : (r.tick h).1 = r.asked .flush := by
  unfold tick asked
  dsimp only
  split <;> rfl

theorem asked_eq (r : RemoteReporter) (command : Command) :
    ∃ queue, r.asked command = { r with queue } := by
  unfold asked
  split
  · exact ⟨r.queue, rfl⟩
  · exact ⟨_, rfl⟩

private theorem worker_asked (r : RemoteReporter) (command : Command) :
    (r.asked command).worker = r.worker := by
  unfold asked
  split <;> rfl

private theorem ended_of_undercuts {kind : CommandKind} {batch : List Span}
    (worker : r.worker = .sending kind batch) (other : kind ≠ .append)
    (undercuts : p.Undercuts r.metered) : (r.workWith p h).1.worker = .ended := by
  obtain ⟨metered, text, loss, cause, answer, negative⟩ := undercuts
  have named : lostSpans kind (.failure (.sender text loss cause)) = loss := by
    cases kind with
    | append => exact absurd rfl other
    | flush | close => rfl
  have refused : (p.leave h).count? r.metered .reporterFailure loss = none :=
    Host.count?_eq_none.mpr ⟨metered, negative⟩
  rw [workWith_of_sending p h worker, Reply.outcome_eq_sender.mpr answer]
  simp only [conclude, named, refused]

private theorem closeWith_reporter (r : RemoteReporter) (p : Reply) (h : Host) :
    (r.closeWith p h).2.1 = { r with sender := p.sender } := by
  unfold closeWith
  dsimp only
  split
  · rfl
  · split <;> rfl
  · rfl

private theorem raises_closeWith (r : RemoteReporter) (p : Reply) (h : Host) :
    (r.closeWith p h).1.isSome = true ↔ p.Undercuts r.metered := by
  unfold closeWith
  dsimp only
  have named {text : String} {loss : Int} {cause : Option Cause}
      (raised : p.answer = .error (.failure (.sender text loss cause))) :
      p.outcome r.metered = .error (.failure (.sender text loss cause)) :=
    Reply.outcome_eq_sender.mpr raised
  split
  case h_1 sent booked =>
    refine ⟨(fun some => by cases some), ?_⟩
    rintro ⟨-, text, loss, cause, raised, -⟩
    rw [named raised] at booked
    cases booked
  case h_2 text loss cause booked =>
    cases counted : (p.leave h).count? r.metered .reporterFailure loss with
    | none =>
      obtain ⟨metered, negative⟩ := Host.count?_eq_none.mp counted
      exact ⟨fun _ => ⟨metered, text, loss, cause, Reply.outcome_eq_sender.mp booked, negative⟩,
        fun _ => rfl⟩
    | some host =>
      refine ⟨(fun some => by cases some), ?_⟩
      rintro ⟨metered, _, _, _, raised, negative⟩
      rw [named raised] at booked
      cases booked
      rw [Host.count?_eq_none.mpr ⟨metered, negative⟩] at counted
      cases counted
  case h_3 f other booked =>
    refine ⟨(fun some => by cases some), ?_⟩
    rintro ⟨-, text, loss, cause, raised, -⟩
    rw [named raised] at booked
    cases booked
    exact (other text loss cause rfl).elim

end RemoteReporter

namespace Handling

/-- Where the commands are that were put in the queue. They are started in order, but for those
that a closing call throws out and one that the worker lets go. What was thrown out before the
worker took its last command stands before that one; there is nothing of the kind before a command
that the worker runs. -/
structure Parts (r : RemoteReporter) (accepted started discarded forsaken before after :
    List Command) : Prop where
  whole : discarded ++ r.queue = before ++ after
  kept : r.abandoned = false → before = []
  bound : ∀ command, r.worker = .bound command → before = []
  order : started ++ before ++ (r.worker.inHand ++ forsaken) ++ after = accepted

/-- What is known of the commands after every step. A closing call throws commands out where it
gives the queue up or where `lost` excuses it. A worker ends with the command to finish, which is
the last one, or for the same reasons. -/
structure Contained (lost : Prop) (r : RemoteReporter) (closing : Closing)
    (accepted started discarded forsaken : List Command) : Prop where
  parts : ∃ before after, Parts r accepted started discarded forsaken before after
  closed : r.closed = true ↔ closing ≠ .notBegun
  early : closing.empties = false → discarded = [] ∧ r.abandoned = false
  unasked : closing = .notBegun ∨ closing = .entering → .close ∉ accepted
  last : r.abandoned = false → .close ∉ accepted.dropLast
  busy : ∀ kind, r.worker.kind? = some kind → started.getLast?.map Command.kind = some kind
  ended : r.worker = .ended →
    r.abandoned = true ∨ started.getLast? = some .close ∨ lost
  kept : discarded ≠ [] → r.abandoned = true ∨ lost
  stray : forsaken ≠ [] → r.worker = .ended ∧ r.abandoned = true ∧ forsaken.length = 1
  stopped : closing.empties = true → r.abandoned = true ∨ r.worker = .ended
  gives : closing.gives = true → r.abandoned = true

variable {lost : Prop} {r r' : RemoteReporter} {p : Reply} {h : Host} {closing next : Closing}
variable {accepted started discarded forsaken : List Command}

private theorem contained_start (fresh : r.IsFresh) : Contained lost r .notBegun [] [] [] [] where
  parts := ⟨[], [], by simp [fresh.queue], fun _ => rfl, fun _ _ => rfl,
    by simp [fresh.worker, Worker.inHand]⟩
  closed := by simp [fresh.closed]
  early _ := ⟨rfl, fresh.abandoned⟩
  unasked _ := List.not_mem_nil
  last _ := List.not_mem_nil
  busy kind busy := by simp [fresh.worker, Worker.kind?] at busy
  ended ended := by simp [fresh.worker] at ended
  kept some := absurd rfl some
  stray some := absurd rfl some
  stopped := by simp [Closing.empties]
  gives := by simp [Closing.gives]

private theorem Contained.admit
    (c : Contained lost r closing accepted started discarded forsaken) {command : Command}
    (other : command ≠ .close) (takes : r.refuses = false) :
    Contained lost { r with queue := r.queue ++ [command] } closing (accepted ++ [command])
      started discarded forsaken := by
  have unclosed : r.closed = false := by
    simp only [RemoteReporter.refuses, Bool.or_eq_false_iff] at takes
    exact takes.1
  have begun : closing = .notBegun := by
    by_contra begun
    simp [c.closed.mpr begun] at unclosed
  obtain ⟨none, kept⟩ := c.early (by rw [begun]; rfl)
  have unasked := c.unasked (.inl begun)
  obtain ⟨before, after, parts⟩ := c.parts
  refine { c with
    parts := ⟨before, after ++ [command], { parts with whole := ?_, order := ?_ }⟩
    unasked := fun _ m => ?_
    last := fun _ => ?_ }
  · rw [← List.append_assoc, ← List.append_assoc, parts.whole]
  · rw [← List.append_assoc, ← parts.order]
  · rcases List.mem_append.mp m with m | m
    · exact unasked m
    · exact other (List.mem_singleton.mp m).symm
  · rw [List.dropLast_concat]
    exact unasked

private theorem Contained.forsaken_eq_nil
    (c : Contained lost r closing accepted started discarded forsaken) (alive : r.worker ≠ .ended) :
    forsaken = [] := by
  by_contra some
  exact alive (c.stray some).1

private theorem close_of_kind {commands : List Command}
    (kind : commands.getLast?.map Command.kind = some .close) :
    commands.getLast? = some .close := by
  obtain ⟨command, last, kind⟩ := Option.map_eq_some_iff.mp kind
  cases command <;> cases kind
  exact last

private theorem Contained.turn
    (c : Contained lost r closing accepted started discarded forsaken) (alive : r.worker ≠ .ended)
    {sender : Sender} {worker : Worker} {failing : Failing} (hand : worker.inHand = r.worker.inHand)
    (bound : ∀ command, worker = .bound command → r.abandoned = false)
    (busy : ∀ kind, worker.kind? = some kind → r.worker.kind? = some kind)
    (ends : worker = .ended → r.abandoned = true ∨ r.worker.kind? = some .close ∨ lost) :
    Contained lost { r with sender, worker, failing } closing accepted started discarded
      forsaken := by
  obtain ⟨before, after, parts⟩ := c.parts
  refine { c with
    parts := ⟨before, after, { parts with
      bound := fun command e => parts.kept (bound command e)
      order := hand ▸ parts.order }⟩
    busy := fun kind e => c.busy kind (busy kind e)
    ended := fun e => ?_
    stray := fun some => absurd (c.stray some).1 alive
    stopped := fun empties => .inl ((c.stopped empties).resolve_right alive) }
  rcases ends e with given | close | excused
  · exact .inl given
  · exact .inr (.inl (close_of_kind (c.busy _ close)))
  · exact .inr (.inr excused)

private theorem Contained.take
    (c : Contained lost r closing accepted started discarded forsaken) {command : Command}
    {rest : List Command} (worker : r.worker = .waiting) (queue : r.queue = command :: rest) :
    Contained lost { r with queue := rest, worker := .holding command } closing accepted started
      discarded forsaken := by
  have alive : r.worker ≠ .ended := by simp [worker]
  have none := c.forsaken_eq_nil alive
  obtain ⟨before, after, parts⟩ := c.parts
  have whole := parts.whole
  have order := parts.order
  rw [queue] at whole
  rw [worker, none] at order
  refine { c with
    parts := ⟨discarded, rest, rfl, fun kept => ?_, (fun _ e => by cases e), ?_⟩
    busy := fun _ e => by cases e
    ended := fun e => by cases e
    stray := fun some => absurd none some
    stopped := fun empties => .inl ((c.stopped empties).resolve_right alive) }
  · by_cases empties : closing.empties = true
    · have given := (c.stopped empties).resolve_right alive
      rw [show r.abandoned = false from kept] at given
      cases given
    · exact (c.early (Bool.not_eq_true _ ▸ empties)).1
  · rw [← order]
    simp [Worker.inHand, none, ← whole]

private theorem Contained.quit
    (c : Contained lost r closing accepted started discarded forsaken) {command : Command}
    (worker : r.worker = .holding command) (given : r.abandoned = true) :
    Contained lost { r with worker := .ended } closing accepted started discarded
      (forsaken ++ [command]) := by
  have none := c.forsaken_eq_nil (by simp [worker])
  obtain ⟨before, after, parts⟩ := c.parts
  have order := parts.order
  rw [worker] at order
  refine { c with
    parts := ⟨before, after, { parts with bound := (fun _ e => by cases e), order := ?_ }⟩
    busy := fun _ e => by cases e
    ended := fun _ => .inl given
    stray := fun _ => ⟨rfl, given, by simp [none]⟩
    stopped := fun _ => .inl given }
  simpa [Worker.inHand, none] using order

private theorem Contained.start
    (c : Contained lost r closing accepted started discarded forsaken) {command : Command}
    (worker : r.worker = .bound command) {sender : Sender} {worker' : Worker} {failing : Failing}
    (runs : worker' = .looking ∨ worker'.kind? = some command.kind) :
    Contained lost { r with sender, worker := worker', failing } closing accepted
      (started ++ [command]) discarded forsaken := by
  have alive : r.worker ≠ .ended := by simp [worker]
  obtain ⟨before, after, parts⟩ := c.parts
  have first : before = [] := parts.bound command worker
  have order := parts.order
  rw [worker] at order
  have hand : worker'.inHand = [] := by
    rcases runs with rfl | busy
    · rfl
    · exact Worker.inHand_of_kind? busy
  have known (kind : CommandKind) (busy : worker'.kind? = some kind) : command.kind = kind := by
    rcases runs with rfl | runs
    · cases busy
    · rw [runs] at busy
      exact Option.some.inj busy
  refine { c with
    parts := ⟨before, after, { parts with bound := fun _ _ => first, order := ?_ }⟩
    busy := fun kind busy => ?_
    ended := fun ended => ?_
    stray := fun some => absurd (c.stray some).1 alive
    stopped := fun empties => .inl ((c.stopped empties).resolve_right alive) }
  · change started ++ [command] ++ before ++ (worker'.inHand ++ forsaken) ++ after = accepted
    rw [hand, first]
    simpa [first, Worker.inHand] using order
  · rw [List.getLast?_concat, Option.map_some, known kind busy]
  · rcases runs with rfl | busy
    · cases ended
    · rw [show worker' = .ended from ended] at busy
      cases busy

private theorem Contained.worked (c : Contained lost r closing accepted started discarded forsaken)
    (worked : r.Worked p r')
    (excused : (∃ batch, r.worker = .sending .flush batch) → p.Undercuts r.metered → lost) :
    Contained lost r' closing accepted (started ++ r.next?.toList) discarded
      (forsaken ++ r.worker.forsakes r.abandoned) := by
  have unmoved {next : List Command} {lets : List Command} (none : next = []) (keeps : lets = [])
      (c' : Contained lost r' closing accepted started discarded forsaken) :
      Contained lost r' closing accepted (started ++ next) discarded (forsaken ++ lets) := by
    rwa [none, keeps, List.append_nil, List.append_nil]
  cases worked with
  | idle rests =>
    refine unmoved ?_ ?_ c <;> rcases rests with worker | ⟨worker, -⟩ <;>
      simp [RemoteReporter.next?, Worker.forsakes, worker]
  | take worker queue =>
    exact unmoved (by simp [RemoteReporter.next?, worker]) (by rw [worker]; rfl)
      (c.take worker queue)
  | look worker kept =>
    refine unmoved (by simp [RemoteReporter.next?, worker]) (by rw [worker]; rfl) ?_
    exact c.turn (by simp [worker]) (by rw [worker]; rfl) (fun _ e => by cases e)
      (fun _ e => by cases e) fun e => by cases e
  | stop worker given =>
    refine unmoved (by simp [RemoteReporter.next?, worker]) (by rw [worker]; rfl) ?_
    exact c.turn (by simp [worker]) (by rw [worker]; rfl) (fun _ e => by cases e)
      (fun _ e => by cases e) fun _ => .inl given
  | bind worker kept =>
    refine unmoved (by simp [RemoteReporter.next?, worker]) (by rw [worker, kept]; rfl) ?_
    exact c.turn (by simp [worker]) (by rw [worker]; rfl) (fun _ _ => kept)
      (fun _ e => by cases e) fun e => by cases e
  | @quit command worker given =>
    have none : r.next? = none := by simp [RemoteReporter.next?, worker]
    have lets : r.worker.forsakes r.abandoned = [command] := by rw [worker, given]; rfl
    rw [none, lets, Option.toList_none, List.append_nil]
    exact c.quit worker given
  | @start command sender worker' failing worker runs =>
    have next : r.next? = some command := by simp [RemoteReporter.next?, worker]
    have lets : r.worker.forsakes r.abandoned = [] := by rw [worker]; rfl
    rw [next, lets, List.append_nil]
    exact c.start worker runs
  | goOn worker =>
    refine unmoved (by simp [RemoteReporter.next?, worker]) (by rw [worker]; rfl) ?_
    refine c.turn (by simp [worker]) (by rw [worker]; rfl) (fun _ e => by cases e) (fun _ e => ?_)
      fun e => by cases e
    rw [worker]
    exact e
  | @finish kind sender failing busy =>
    have alive : r.worker ≠ .ended := by
      intro ended
      rw [ended] at busy
      cases busy
    have hand := Worker.inHand_of_kind? busy
    refine unmoved ?_ ?_ ?_
    · cases worker : r.worker <;> simp [RemoteReporter.next?, worker, Worker.kind?] at busy ⊢
    · cases worker : r.worker <;> simp [worker, Worker.kind?, Worker.forsakes] at busy ⊢
    · refine c.turn alive (by rw [hand, Worker.inHand_after]) (fun command e => ?_)
        (fun _ e => ?_) fun e => ?_
      · cases kind <;> cases e
      · cases kind <;> cases e
      · cases kind <;> first | exact .inr (.inl busy) | cases e
  | @lose kind batch worker other undercuts =>
    refine unmoved (by simp [RemoteReporter.next?, worker]) (by rw [worker]; rfl) ?_
    refine c.turn (by simp [worker]) (by rw [worker]; rfl) (fun _ e => by cases e)
      (fun _ e => by cases e) fun _ => ?_
    cases kind with
    | append => exact absurd rfl other
    | flush => exact .inr (.inr (excused ⟨batch, worker⟩ undercuts))
    | close => exact .inr (.inl (by rw [worker]; rfl))

private theorem Contained.finished
    (c : Contained lost r closing accepted started discarded forsaken)
    (kept : r.abandoned = false) (finished : started.getLast? = some .close) :
    started = accepted := by
  obtain ⟨before, after, parts⟩ := c.parts
  have order := parts.order
  have last := c.last kept
  rw [parts.kept kept, List.append_nil, List.append_assoc] at order
  obtain ⟨earlier, rfl⟩ := List.getLast?_eq_some_iff.mp finished
  -- with more behind it, the command to finish would not be the last one
  by_contra more
  rw [← order] at last more
  have some : r.worker.inHand ++ forsaken ++ after ≠ [] := by
    intro none
    rw [none, List.append_nil] at more
    exact more rfl
  rw [List.dropLast_append_of_ne_nil some] at last
  exact last (by simp)

private theorem Contained.enter
    (c : Contained lost r .notBegun accepted started discarded forsaken) :
    Contained lost { r with closed := true } .entering accepted started discarded forsaken := by
  obtain ⟨before, after, parts⟩ := c.parts
  exact { c with
    parts := ⟨before, after, { parts with }⟩
    closed := by simp
    early := fun _ => c.early rfl
    unasked := fun _ => c.unasked (.inl rfl)
    stopped := fun e => by cases e
    gives := fun e => by cases e }

private theorem Contained.request
    (c : Contained lost r .entering accepted started discarded forsaken) :
    Contained lost r.requestClose .waiting (accepted ++ [.close]) started discarded
      forsaken := by
  obtain ⟨before, after, parts⟩ := c.parts
  refine { c with
    parts := ⟨before, after ++ [.close], { parts with whole := ?_, order := ?_ }⟩
    closed := by simpa [RemoteReporter.requestClose] using c.closed
    early := fun _ => c.early rfl
    unasked := by simp
    last := fun _ => ?_
    stopped := fun e => by cases e
    gives := fun e => by cases e }
  · rw [← List.append_assoc, ← parts.whole]
    simp [RemoteReporter.requestClose]
  · rw [← List.append_assoc, ← parts.order]
    rfl
  · rw [List.dropLast_concat]
    exact c.unasked (.inr rfl)

private theorem Contained.advance (c : Contained lost r closing accepted started discarded forsaken)
    (sender : Sender) (begun : closing ≠ .notBegun)
    (past : next ≠ .notBegun ∧ next ≠ .entering)
    (early : next.empties = false → closing.empties = false)
    (stopped : next.empties = true → r.abandoned = true ∨ r.worker = .ended)
    (gives : next.gives = true → r.abandoned = true) :
    Contained lost { r with sender } next accepted started discarded forsaken := by
  obtain ⟨before, after, parts⟩ := c.parts
  exact { c with
    parts := ⟨before, after, { parts with }⟩
    closed := ⟨fun _ => past.1, fun _ => c.closed.mpr begun⟩
    early := fun e => c.early (early e)
    unasked := fun e => (e.elim past.1 past.2).elim
    stopped := stopped
    gives := gives }

private theorem Contained.resign
    (c : Contained lost r .resigning accepted started discarded forsaken) :
    Contained lost { r with abandoned := true } (.draining true 0) accepted started discarded
      forsaken := by
  obtain ⟨before, after, parts⟩ := c.parts
  have none : before = [] := parts.kept (c.early rfl).2
  exact {
    parts := ⟨before, after, { parts with kept := fun _ => none, bound := fun _ _ => none }⟩
    closed := by simpa using c.closed
    early := fun e => by cases e
    unasked := by simp
    last := fun e => by cases e
    busy := c.busy
    ended := fun _ => .inl rfl
    kept := fun _ => .inl rfl
    stray := fun some => ⟨(c.stray some).1, rfl, (c.stray some).2.2⟩
    stopped := fun _ => .inl rfl
    gives := fun _ => rfl }

/-- A worker that has started the command to finish leaves nothing in the queue, so commands are
thrown out for another reason. -/
private theorem Contained.throw {given : Bool} {thrown more : Nat}
    (c : Contained lost r (.draining given thrown) accepted started discarded forsaken)
    {command : Command} {rest : List Command} (queue : r.queue = command :: rest) :
    Contained lost { r with queue := rest } (.draining given more) accepted started
      (discarded ++ [command]) forsaken := by
  obtain ⟨before, after, parts⟩ := c.parts
  have whole := parts.whole
  rw [queue] at whole
  refine { c with
    parts := ⟨before, after, { parts with whole := by simpa using whole }⟩
    closed := by simpa using c.closed
    early := fun e => by cases e
    unasked := by simp
    kept := fun _ => ?_
    stopped := fun _ => c.stopped rfl
    gives := fun gives => c.gives gives }
  by_cases abandoned : r.abandoned = true
  · exact .inl abandoned
  · have kept := Bool.not_eq_true _ ▸ abandoned
    have worker := (c.stopped rfl).resolve_left abandoned
    rcases c.ended worker with given | finished | excused
    · exact .inl given
    · have order := parts.order
      rw [← c.finished kept finished, parts.kept kept] at order
      rw [parts.kept kept] at whole
      simp at order whole
      simp [order.2.2] at whole
    · exact .inr excused

private theorem Contained.wake (c : Contained lost r .waking accepted started discarded forsaken)
    (added : List Command) :
    Contained lost { r with queue := r.queue ++ added } .leaving (accepted ++ added) started
      discarded forsaken := by
  have given : r.abandoned = true := c.gives rfl
  obtain ⟨before, after, parts⟩ := c.parts
  refine { c with
    parts := ⟨before, after ++ added, { parts with whole := ?_, order := ?_ }⟩
    closed := by simpa using c.closed
    early := fun e => by cases e
    unasked := by simp
    last := fun kept => ?_
    stopped := fun _ => .inl given
    gives := fun _ => given }
  · rw [← List.append_assoc, ← List.append_assoc, parts.whole]
  · rw [← List.append_assoc, ← parts.order]
  · rw [show r.abandoned = false from kept] at given
    cases given

/-- The worker is in a flush, for which the sender names a loss below zero. -/
def LosesWorker (s : Handling) : Event → Prop
  | .work p =>
    (∃ batch, s.delivery.reporter.worker = .sending .flush batch) ∧
      p.Undercuts s.delivery.reporter.metered
  | _ => False

/-- The sender that the closing call closes names a loss below zero for that. -/
def FailsClosing (s : Handling) : Event → Prop
  | .close p =>
    (∃ batch, s.delivery.closing = .releasing batch) ∧ p.Undercuts s.delivery.reporter.metered
  | _ => False

def Meets (condition : Handling → Event → Prop) (s : Handling) : List Event → Prop
  | [] => False
  | event :: rest => condition s event ∨ Meets condition (s.step event) rest

theorem meets_append {condition : Handling → Event → Prop} {s : Handling}
    {before after : List Event} : Meets condition s (before ++ after) ↔
      Meets condition s before ∨ Meets condition (s.run before) after := by
  induction before generalizing s with
  | nil => simp [Meets]
  | cons event rest ih => rw [List.cons_append, Meets, Meets, ih, run_cons, or_assoc]

/-- The commands of a run are where they belong. -/
def IsContained (lost : Prop) (s : Handling) : Prop :=
  Contained lost s.delivery.reporter s.delivery.closing s.accepted s.started s.discarded s.forsaken

variable {s : Handling}

private theorem Contained.ask
    (c : Contained lost r closing accepted started discarded forsaken) {command : Command}
    (other : command ≠ .close) :
    Contained lost (r.asked command) closing (accepted ++ r.admits command) started discarded
      forsaken := by
  unfold RemoteReporter.admits RemoteReporter.asked
  cases refuses : r.refuses with
  | true => simpa using c
  | false => exact c.admit other refuses

/-- What one step of the closing call can do, whatever the sender does. -/
inductive Closes (s : Handling) (p : Reply) : Handling → Prop
  | still : s.delivery.closing = .returned → Closes s p s
  | enter : s.delivery.closing = .notBegun →
      Closes s p { s with
        delivery := { s.delivery with
          reporter := { s.delivery.reporter with closed := true }, closing := .entering } }
  | pass {host : Host} {next : Closing} : s.delivery.closing ≠ .notBegun →
      s.delivery.closing.Passes next →
      Closes s p { s with delivery := { s.delivery with host, closing := next } }
  | request : s.delivery.closing = .entering →
      Closes s p { s with
        delivery := { s.delivery with
          reporter := s.delivery.reporter.requestClose, closing := .waiting }
        accepted := s.accepted ++ [.close] }
  | finish : s.delivery.closing = .waiting → s.delivery.reporter.worker = .ended →
      Closes s p { s with delivery := { s.delivery with closing := .draining false 0 } }
  | resign {overtaken : Bool} : s.delivery.closing = .resigning →
      Closes s p { s with
        delivery := { s.delivery with
          reporter := { s.delivery.reporter with abandoned := true }
          closing := .draining true 0, overtaken } }
  | throw {given : Bool} {thrown more : Nat} {command : Command} {rest : List Command}
      {spans : List Span} : s.delivery.closing = .draining given thrown →
      s.delivery.reporter.queue = command :: rest →
      Closes s p { s with
        delivery := { s.delivery with
          reporter := { s.delivery.reporter with queue := rest }
          closing := .draining given more, discarded := spans }
        discarded := s.discarded ++ [command] }
  | book {given : Bool} {thrown : Nat} {host : Host} :
      s.delivery.closing = .draining given thrown → s.delivery.reporter.queue = [] →
      Closes s p { s with
        delivery := { s.delivery with host, closing := if given then .waking else .leaving } }
  | wake {added : List Command} : s.delivery.closing = .waking →
      Closes s p { s with
        delivery := { s.delivery with
          reporter :=
            { s.delivery.reporter with queue := s.delivery.reporter.queue ++ added }
          closing := .leaving }
        accepted := s.accepted ++ added }
  | part {host : Host} {batch : List Span} : s.delivery.closing = .leaving →
      Closes s p { s with
        delivery := { s.delivery with
          reporter := { s.delivery.reporter with sender := p.sender }, host
          closing := .releasing batch } }
  | leave {batch : List Span} {host : Host} {answered : List (List Span)} {raised : Option Fault} :
      s.delivery.closing = .releasing batch →
      (raised.isSome = true ↔ p.Undercuts s.delivery.reporter.metered) →
      Closes s p { s with
        delivery := { s.delivery with
          reporter := { s.delivery.reporter with sender := p.sender }, host, closing := .returned
          answered }
        raised }

theorem closes_closeStep (s : Handling) (p : Reply) : s.Closes p (s.closeStep p) := by
  have begun {c : Closing} (closing : s.delivery.closing = c) (other : c ≠ .notBegun) :
      s.delivery.closing ≠ .notBegun := closing ▸ other
  have passes {c next : Closing} (closing : s.delivery.closing = c) (passes : c.Passes next) :
      s.delivery.closing.Passes next := closing ▸ passes
  unfold closeStep Delivery.closeStep
  cases closing : s.delivery.closing with
  | notBegun => exact .enter closing
  | entering =>
    cases full : s.delivery.reporter.isFull with
    | true => exact .pass (begun closing fun e => by cases e) (passes closing .crowd)
    | false => exact .request closing
  | waiting =>
    cases alive : s.delivery.reporter.isAlive with
    | true => exact .pass (begun closing fun e => by cases e) (passes closing .tarry)
    | false => exact .finish closing (RemoteReporter.ended_of_not_alive alive)
  | late => exact .pass (begun closing fun e => by cases e) (passes closing .warn)
  | resigning => exact .resign closing
  | draining given thrown =>
    cases queue : s.delivery.reporter.queue with
    | nil =>
      have booked : ({ s with
            delivery := s.delivery.drainStep given thrown
            discarded := s.discarded ++ ([] : List Command).head?.toList } : Handling) =
          { s with
            delivery := { s.delivery with
              host := s.delivery.reporter.bookThrown thrown s.delivery.host
              closing := if given then .waking else .leaving } } := by
        simp [Delivery.drainStep, queue]
      rw [booked]
      exact .book closing queue
    | cons command rest =>
      simp only [Delivery.drainStep, queue, List.head?_cons, Option.toList_some]
      exact .throw closing queue
  | waking =>
    unfold RemoteReporter.wake
    cases full : s.delivery.reporter.isFull with
    | true => simpa using @Closes.wake s p [] closing
    | false => exact @Closes.wake s p [.close] closing
  | leaving => exact .part closing
  | releasing batch =>
    have closed := RemoteReporter.closeWith_reporter s.delivery.reporter p s.delivery.host
    have raises := RemoteReporter.raises_closeWith s.delivery.reporter p s.delivery.host
    simp only [closed]
    exact .leave closing raises
  | returned => exact .still closing

private theorem IsContained.closes {s' : Handling} (c : s.IsContained lost)
    (closes : s.Closes p s') :
    s'.IsContained lost := by
  unfold IsContained at c
  have past {c : Closing} (early : c.empties = true) : c ≠ .notBegun ∧ c ≠ .entering := by
    cases c <;> simp [Closing.empties] at early ⊢
  cases closes with
  | still => exact c
  | enter closing =>
    rw [closing] at c
    exact c.enter
  | @pass host next begun passes =>
    obtain ⟨early, early'⟩ := passes.early
    have later {first : Closing} (begins : first = .notBegun ∨ first = .entering) :
        next ≠ first := by
      rintro rfl
      exact begun (passes.begins begins)
    refine c.advance s.delivery.reporter.sender begun
      ⟨later (.inl rfl), later (.inr rfl)⟩ (fun _ => early) (fun empties => ?_) fun gives => ?_
    · rw [early'] at empties
      cases empties
    · rw [(Closing.not_of_early early').1] at gives
      cases gives
  | request closing =>
    rw [closing] at c
    exact c.request
  | finish closing worker =>
    rw [closing] at c
    exact c.advance s.delivery.reporter.sender (fun e => by cases e) (past rfl)
      (fun e => by cases e) (fun _ => .inr worker) fun e => by cases e
  | resign closing =>
    rw [closing] at c
    exact c.resign
  | throw closing queue =>
    rw [closing] at c
    exact c.throw queue
  | @book given thrown host closing queue =>
    rw [closing] at c
    have stopped := c.stopped rfl
    refine c.advance s.delivery.reporter.sender (fun e => by cases e)
      (past (by cases given <;> rfl)) (fun e => by cases given <;> cases e) (fun _ => stopped)
      fun gives => c.gives ?_
    cases given with
    | true => rfl
    | false => cases gives
  | wake closing =>
    rw [closing] at c
    exact c.wake _
  | part closing =>
    rw [closing] at c
    exact c.advance p.sender (fun e => by cases e) (past rfl) (fun e => by cases e)
      (fun _ => c.stopped rfl) fun e => by cases e
  | leave closing =>
    rw [closing] at c
    exact c.advance p.sender (fun e => by cases e) (past rfl) (fun e => by cases e)
      (fun _ => c.stopped rfl) fun e => by cases e

private theorem contained_step (c : s.IsContained lost) (event : Event)
    (excused : s.LosesWorker event → lost) : (s.step event).IsContained lost := by
  cases event with
  | report span =>
    have asked := Contained.ask c (fun close : Command.append span = .close => by cases close)
    rw [← RemoteReporter.offer_reporter _ span s.delivery.host] at asked
    exact asked
  | flush =>
    have asked := Contained.ask c (fun close : Command.flush = .close => by cases close)
    rw [← RemoteReporter.tick_reporter _ s.delivery.host] at asked
    exact asked
  | work p =>
    exact c.worked (RemoteReporter.worked_workWith _ p _) fun flush undercuts =>
      excused ⟨flush, undercuts⟩
  | close p => exact c.closes (closes_closeStep s p)

private theorem contained_run {events : List Event} (c : s.IsContained lost)
    (excused : Meets LosesWorker s events → lost) : (s.run events).IsContained lost := by
  induction events generalizing s with
  | nil => exact c
  | cons event rest ih =>
    exact ih (contained_step c event fun losing => excused (.inl losing))
      fun later => excused (.inr later)

def IsLost (s : Handling) : Prop :=
  s.delivery.reporter.worker = .ended ∧ s.started.getLast? = some .flush

private theorem lost_of_losesWorker (c : s.IsContained lost) {event : Event}
    (losing : s.LosesWorker event) : (s.step event).IsLost := by
  cases event with
  | report | flush | close => exact losing.elim
  | work p =>
    obtain ⟨⟨batch, worker⟩, undercuts⟩ := losing
    have busy : s.delivery.reporter.worker.kind? = some .flush := by rw [worker]; rfl
    obtain ⟨command, last, kind⟩ := Option.map_eq_some_iff.mp (c.busy _ busy)
    obtain rfl : command = .flush := by
      cases command <;> first | rfl | cases kind
    refine ⟨RemoteReporter.ended_of_undercuts worker (fun same => by cases same) undercuts, ?_⟩
    have none : s.delivery.reporter.next? = none := by simp [RemoteReporter.next?, worker]
    simp only [step, none, Option.toList_none, List.append_nil]
    exact last

private theorem lost_step (dead : s.IsLost) (event : Event) : (s.step event).IsLost := by
  obtain ⟨worker, last⟩ := dead
  cases event with
  | report span =>
    have offered := s.delivery.reporter.offer_reporter span s.delivery.host
    exact ⟨by simpa only [step, Delivery.step, Delivery.act, offered,
      RemoteReporter.worker_asked] using worker, last⟩
  | flush =>
    have ticked := s.delivery.reporter.tick_reporter s.delivery.host
    exact ⟨by simpa only [step, Delivery.step, Delivery.act, ticked,
      RemoteReporter.worker_asked] using worker, last⟩
  | work p =>
    have idle := RemoteReporter.Rests.workWith (.inl worker) p s.delivery.host
    have none : s.delivery.reporter.next? = none := by simp [RemoteReporter.next?, worker]
    simp only [step, Delivery.work, Delivery.act, idle, none, Option.toList_none, List.append_nil]
    exact ⟨worker, last⟩
  | close p =>
    have closes : s.Closes p (s.step (.close p)) := closes_closeStep s p
    generalize s.step (.close p) = s' at closes ⊢
    cases closes <;> exact ⟨worker, last⟩

private theorem lost_run {events : List Event} (c : s.IsContained lost)
    (excused : Meets LosesWorker s events → lost) (losing : Meets LosesWorker s events) :
    (s.run events).IsLost := by
  -- the first event that costs the worker its life decides; no later one undoes it
  induction events generalizing s with
  | nil => exact losing.elim
  | cons event rest ih =>
    rcases losing with now | later
    · exact List.foldlRecOn rest step (lost_of_losesWorker c now) fun _ dead event _ =>
        lost_step dead event
    · exact ih (contained_step c event fun now => excused (.inl now))
        (fun later => excused (.inr later)) later

/-- A call has not raised before it returned. -/
def IsSettled (s : Handling) : Prop := s.delivery.closing ≠ .returned → s.raised = none

private theorem raised_step (settled : s.IsSettled) (event : Event) :
    (s.step event).IsSettled ∧
      ((s.step event).raised.isSome = true ↔ s.raised.isSome = true ∨ s.FailsClosing event) := by
  cases event with
  | report | flush | work => exact ⟨settled, by simp [step, FailsClosing]⟩
  | close p =>
    have closes : s.Closes p (s.step (.close p)) := closes_closeStep s p
    generalize s.step (.close p) = s' at closes ⊢
    cases closes with
    | still closing => exact ⟨settled, by simp [FailsClosing, closing]⟩
    | pass begun passes =>
      have early := passes.early.1
      have other (c : Closing) (late : c.empties = true) : s.delivery.closing ≠ c := by
        rintro rfl
        rw [early] at late
        cases late
      refine ⟨fun _ => settled (other _ rfl), ?_⟩
      have unfailing : ¬ s.FailsClosing (.close p) := by
        rintro ⟨⟨batch, closing⟩, -⟩
        exact other _ rfl closing
      simp [unfailing]
    | enter closing | request closing | finish closing | resign closing | throw closing
    | book closing | wake closing | part closing =>
      exact ⟨fun _ => settled (by simp [closing]), by simp [FailsClosing, closing]⟩
    | leave closing raises =>
      refine ⟨fun unreturned => absurd rfl unreturned, ?_⟩
      rw [raises, settled (by simp [closing])]
      simp [FailsClosing, closing]

private theorem raised_run (settled : s.IsSettled) (events : List Event) :
    (s.run events).raised.isSome = true ↔
      s.raised.isSome = true ∨ Meets FailsClosing s events := by
  induction events generalizing s with
  | nil => simp [Meets]
  | cons event rest ih =>
    obtain ⟨kept, raised⟩ := raised_step settled event
    rw [run_cons, ih kept, raised, Meets, or_assoc]

/-- A call that reports touches the queue of a reporter alone, and so does one that asks for a
flush. -/
theorem reporter_report (s : Handling) (span : Span) :
    ∃ queue, (s.step (.report span)).delivery.reporter = { s.delivery.reporter with queue } := by
  have offered := s.delivery.reporter.offer_reporter span s.delivery.host
  obtain ⟨queue, asked⟩ := s.delivery.reporter.asked_eq (.append span)
  exact ⟨queue, offered.trans asked⟩

theorem reporter_flush (s : Handling) :
    ∃ queue, (s.step .flush).delivery.reporter = { s.delivery.reporter with queue } := by
  have ticked := s.delivery.reporter.tick_reporter s.delivery.host
  obtain ⟨queue, asked⟩ := s.delivery.reporter.asked_eq .flush
  exact ⟨queue, ticked.trans asked⟩

theorem metered_step (s : Handling) (event : Event) :
    (s.step event).delivery.reporter.metered = s.delivery.reporter.metered := by
  cases event with
  | report span =>
    obtain ⟨queue, same⟩ := s.reporter_report span
    rw [same]
  | flush =>
    obtain ⟨queue, same⟩ := s.reporter_flush
    rw [same]
  | work p =>
    have worked := RemoteReporter.worked_workWith s.delivery.reporter p s.delivery.host
    change (s.delivery.reporter.workWith p s.delivery.host).1.metered = _
    generalize (s.delivery.reporter.workWith p s.delivery.host).1 = r at worked ⊢
    cases worked <;> rfl
  | close p =>
    have closes : s.Closes p (s.step (.close p)) := closes_closeStep s p
    generalize s.step (.close p) = s' at closes ⊢
    cases closes <;> rfl

theorem metered_run (s : Handling) (events : List Event) :
    (s.run events).delivery.reporter.metered = s.delivery.reporter.metered := by
  induction events generalizing s with
  | nil => rfl
  | cons event rest ih => exact (ih (s.step event)).trans (metered_step s event)

/-- How a run went: which call raised, where the commands are that were put in the queue, when the
worker ends and what it still does with enough steps. -/
structure Withstands (s : Handling) (losesWorker failsClosing : Prop) : Prop where
  calls : s.raised.isSome = true ↔ failsClosing
  order : ∃ before after, s.discarded ++ s.delivery.reporter.queue = before ++ after ∧
    s.started ++ before ++ (s.delivery.reporter.worker.inHand ++ s.forsaken) ++ after = s.accepted ∧
      (s.delivery.reporter.abandoned = false → before = [])
  goesOn : s.delivery.reporter.worker = .ended →
    s.delivery.reporter.abandoned = true ∨ s.started.getLast? = some .close ∨ losesWorker
  lost : losesWorker → s.IsLost
  kept : s.discarded ≠ [] → s.delivery.reporter.abandoned = true ∨ losesWorker
  stray : s.forsaken ≠ [] → s.delivery.reporter.abandoned = true ∧ s.forsaken.length = 1
  executes : ∀ replies : List Reply, s.delivery.reporter.remaining ≤ replies.length →
    (s.run (replies.map .work)).delivery.reporter.Rests ∧
      ((s.run (replies.map .work)).started = s.accepted ∨
        s.delivery.reporter.abandoned = true ∨ losesWorker ∨
        Meets LosesWorker s (replies.map .work))

private theorem run_work_frame (s : Handling) (replies : List Reply) :
    (s.run (replies.map .work)).accepted = s.accepted ∧
      (s.run (replies.map .work)).delivery.reporter.abandoned =
        s.delivery.reporter.abandoned := by
  induction replies generalizing s with
  | nil => exact ⟨rfl, rfl⟩
  | cons p rest ih =>
    have worked := RemoteReporter.worked_workWith s.delivery.reporter p s.delivery.host
    obtain ⟨accepted, abandoned⟩ := ih (s.step (.work p))
    exact ⟨accepted, abandoned.trans worked.abandoned⟩

private theorem rests_run_of_rests (rests : s.delivery.reporter.Rests) (replies : List Reply) :
    (s.run (replies.map .work)).delivery.reporter.Rests := by
  induction replies generalizing s with
  | nil => exact rests
  | cons p rest ih =>
    refine ih ?_
    change (s.delivery.reporter.workWith p s.delivery.host).1.Rests
    rwa [rests.workWith p s.delivery.host]

private theorem rests_run {replies : List Reply}
    (enough : s.delivery.reporter.remaining ≤ replies.length) :
    (s.run (replies.map .work)).delivery.reporter.Rests := by
  -- each reply brings the worker nearer to rest, unless it rests already
  induction replies generalizing s with
  | nil => exact RemoteReporter.rests_of_remaining (Nat.le_zero.mp enough)
  | cons p rest ih =>
    have worked := RemoteReporter.worked_workWith s.delivery.reporter p s.delivery.host
    rcases worked.remaining_lt with ⟨rests, -⟩ | fewer
    · exact rests_run_of_rests rests (p :: rest)
    · rw [List.length_cons] at enough
      have left : (s.step (.work p)).delivery.reporter.remaining ≤ rest.length :=
        Nat.le_of_lt_succ (fewer.trans_le enough)
      exact ih left

private theorem Contained.rests
    (c : Contained lost r closing accepted started discarded forsaken) (rests : r.Rests) :
    started = accepted ∨ r.abandoned = true ∨ lost := by
  by_cases given : r.abandoned = true
  · exact .inr (.inl given)
  have kept := Bool.not_eq_true _ ▸ given
  rcases rests with worker | ⟨worker, queue⟩
  · rcases c.ended worker with given | finished | excused
    · exact .inr (.inl given)
    · exact .inl (c.finished kept finished)
    · exact .inr (.inr excused)
  · by_cases none : discarded = []
    · left
      obtain ⟨before, after, parts⟩ := c.parts
      have whole := parts.whole
      have order := parts.order
      rw [queue, none, parts.kept kept] at whole
      have rest : after = [] := by simpa using whole.symm
      rw [worker, c.forsaken_eq_nil (by simp [worker]), parts.kept kept, rest] at order
      simpa [Worker.inHand] using order
    · exact .inr (c.kept none)

/-- No sender makes a call raise, and none ends the worker before the command to finish or an
abandoned queue, but by naming a loss below zero for a flush or for its closing. -/
theorem withstands_any_sender {r : RemoteReporter} (fresh : r.IsFresh) (h : Host)
    (events : List Event) :
    let s : Handling := { delivery := Delivery.start r h }
    (s.run events).Withstands (Meets LosesWorker s events) (Meets FailsClosing s events) := by
  intro s
  have c (lost : Prop) : s.IsContained lost := contained_start fresh
  have settled : s.IsSettled := fun _ => rfl
  have contained := contained_run (c (Meets LosesWorker s events)) id
  obtain ⟨before, after, parts⟩ := contained.parts
  refine ⟨?_, ⟨before, after, parts.whole, parts.order, parts.kept⟩, contained.ended,
    fun losing => lost_run (c _) id losing, contained.kept,
    fun some => (contained.stray some).2, fun replies enough => ?_⟩
  · simpa [s] using raised_run settled events
  · have rests := rests_run enough
    have ran : ((s.run events).run (replies.map .work)).IsContained
        (Meets LosesWorker s (events ++ replies.map .work)) := by
      rw [← run_append]
      exact contained_run (c _) id
    obtain ⟨accepted, abandoned⟩ := run_work_frame (s.run events) replies
    have all := Contained.rests ran rests
    rw [accepted, abandoned, meets_append] at all
    exact ⟨rests, all⟩

/-- Faults, numbers below zero and a loss below zero in an append are borne, and the command to
finish is reached. The same loss in a flush ends the worker, and closing with it raises. -/
theorem withstands_all_but_blame :
    let reply (answer : Except Fault Int) : Reply :=
      { answer, sender := .noop, notices := [], network := {} }
    let blame : Except Fault Int := .error (.failure (.sender "down" (-1) none))
    let span : Span := { traceId := 7, spanId := 1, operation := .text "a" }
    let s : Handling := { delivery := Delivery.start (.scripted 10 100 []) {} }
    let idle : Event := .work (reply (.ok 0))
    let borne : List Event := [.report span, idle, idle, idle, .work (reply blame), .report span,
      idle, idle, idle, .work (reply (.ok (-1))), idle, .work (reply (.ok (-5))), .flush, idle,
      idle, idle, idle, .work (reply (.error (.raised "bug"))), .close (reply blame),
      .close (reply blame), idle, idle, idle, .work (reply (.ok 0)), .work (reply (.ok (-5))),
      .close (reply blame), .close (reply blame), .close (reply blame), .close (reply (.ok (-5)))]
    let ending : List Event := [.flush, idle, idle, idle, idle, .work (reply blame),
      .report span, .close (reply blame), .close (reply blame), .close (reply blame),
      .close (reply blame), .close (reply blame), .close (reply blame), .close (reply blame),
      .close (reply blame)]
    ((s.run borne).started = (s.run borne).accepted ∧ (s.run borne).raised = none ∧
      ¬ Meets LosesWorker s borne ∧ ¬ Meets FailsClosing s borne) ∧
      (s.run ending).delivery.closing = .returned ∧ (s.run ending).discarded.length = 2 ∧
        Meets LosesWorker s ending ∧ Meets FailsClosing s ending := by
  intro reply blame span s idle borne ending
  have bears := withstands_any_sender (RemoteReporter.isFresh_scripted 10 100 []) {} borne
  have ends := withstands_any_sender (RemoteReporter.isFresh_scripted 10 100 []) {} ending
  dsimp only [reply, blame, span, s, idle, borne, ending] at bears ends ⊢
  refine ⟨⟨rfl, rfl, fun losing => ?_, fun failing => ?_⟩, rfl, rfl, ?_, ends.calls.mp rfl⟩
  · cases (bears.lost losing).2
  · cases bears.calls.mpr failing
  · rcases ends.goesOn rfl with given | finished | losing
    · cases given
    · cases finished
    · exact losing

end Handling

end Tracing
