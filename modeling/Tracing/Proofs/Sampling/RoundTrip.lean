import Tracing.Proofs.Json.Reading
import Tracing.Proofs.Sampling.Validity
/-!
Strategy documents that were written are read back. A document is written under the names that its
reader looks for first and without what is left out, so that each reader finds the member that is
its own and every other one the standard.
-/

set_option autoImplicit false
set_option relaxedAutoImplicit false

namespace Tracing

open Conversion

theorem JsonStyle.isLegible_document : JsonStyle.document.IsLegible where
  nameEnd := ⟨[], rfl, by simp⟩
  numbers := by decide

private theorem Json.lookup_append (name : String) (earlier later : List (String × Json)) :
    lookup name (earlier ++ later) =
      (lookup name later).or (lookup name earlier) := by
  induction earlier with
  | nil =>
    rw [List.nil_append, lookup, Option.or_none]
  | cons m rest ih =>
    obtain ⟨k, v⟩ := m
    rw [List.cons_append, lookup, lookup, ih]
    cases lookup name later with
    | none => rfl
    | some v => rfl

def OperationParameters.numbers (p : OperationParameters) : List Binary64 :=
  p.defaultRate :: p.defaultLowerBound :: p.operations.map Prod.snd

namespace Strategy

def numbers (s : Strategy) : List Binary64 :=
  s.probabilistic.toList ++ s.rateLimiting.toList ++
    s.operations.toList.flatMap OperationParameters.numbers

section Members

variable {x : Binary64} {p : OperationParameters} {s : Strategy}

private theorem real_of_isShare (medium : Medium) (share : x.IsShare) :
    real medium rateBounds (.real x) = .ok x := by
  obtain ⟨above, below⟩ := Bool.and_eq_true_iff.mp share
  rw [← Bound.holds_atLeast_zero] at above
  rw [← Bound.holds_atMost_one] at below
  exact real_of_holds medium (by simp [rateBounds, above, below])

private theorem real_of_isLimit (medium : Medium) (limit : x.IsLimit) :
    real medium throughputBounds (.real x) = .ok x := by
  have above : (Bound.atLeast 0).holds (.real x) = true := (Bound.holds_atLeast_zero x).trans limit
  exact real_of_holds medium (by simp [throughputBounds, above])

private theorem readProbabilistic_written (medium : Medium) (share : x.IsShare) :
    readProbabilistic medium (.object [("samplingRate", .real x)]) = .ok x := by
  show (Checked.ofProblem (real medium rateBounds (.real x))).under _ = _
  rw [real_of_isShare medium share]
  rfl

private theorem readRateLimiting_written (medium : Medium) (limit : x.IsLimit) :
    readRateLimiting medium (.object [("maxTracesPerSecond", .real x)]) = .ok x := by
  show (Checked.ofProblem (real medium throughputBounds (.real x))).under _ = _
  rw [real_of_isLimit medium limit]
  rfl

private theorem readOperation_written (medium : Medium) {operation : String × Binary64}
    (share : operation.2.IsShare) :
    readOperation medium (operationJson operation) = .ok operation := by
  have rate := readProbabilistic_written medium share
  show ((Checked.ofProblem (text (.text operation.1))).under _).both
    ((readProbabilistic medium (.object [("samplingRate", .real operation.2)])).under _) = _
  rw [rate]
  rfl

private theorem items_written (medium : Medium) {operations : List (String × Binary64)}
    (shares : ∀ entry ∈ operations, entry.2.IsShare) (place : Nat) :
    Checked.items (readOperation medium) place (operations.map operationJson) = .ok operations := by
  induction operations generalizing place with
  | nil => rfl
  | cons operation rest ih =>
    obtain ⟨first, others⟩ := List.forall_mem_cons.mp shares
    rw [List.map_cons, Checked.items, readOperation_written medium first, ih others]
    rfl

private theorem readParameters_written (medium : Medium) (sound : p.IsSound) :
    readParameters medium (parametersJson p) = .ok p := by
  have entries := items_written medium sound.operations 0
  show (((Checked.ofProblem (real medium rateBounds (.real p.defaultRate))).under _).both
    (((Checked.ofProblem (real medium throughputBounds (.real p.defaultLowerBound))).under _).both
      ((Checked.items (readOperation medium) 0
        (p.operations.map operationJson)).under _))).map _ = _
  rw [real_of_isShare medium sound.rate, real_of_isLimit medium sound.bound, entries]
  rfl

private theorem lookup_optionalMember {α : Type} (name own : String) (write : α → Json)
    (o : Option α) :
    Json.lookup name (optionalMember own write o) = if own = name then o.map write else none := by
  cases o with
  | none => simp [optionalMember, Json.lookup]
  | some a => simp [optionalMember, Json.lookup]

private theorem withDefault_written {α : Type} {ms : List (String × Json)} {name : String}
    {names : List String} {write : α → Json} {o : Option α} (read : Json → Checked α)
    (found : member? ms names = o.map fun a => (name, write a))
    (reads : ∀ a, o = some a → write a ≠ .null ∧ read (write a) = .ok a) :
    withDefault ms names none (nullable read) = .ok o := by
  unfold withDefault
  rw [found]
  cases o with
  | none => rfl
  | some a =>
    obtain ⟨present, same⟩ := reads a rfl
    have whole : nullable read (write a) = .ok (some a) := by
      unfold nullable
      split
      case h_1 null => exact absurd null present
      case h_2 =>
        rw [same]
        rfl
    show (nullable read (write a)).under _ = _
    rw [whole]
    rfl

def written (s : Strategy) : List (String × Json) :=
  optionalMember "strategyType" (fun k => .text k.name) s.kind ++
    optionalMember "probabilisticSampling" (fun r => .object [("samplingRate", .real r)])
      s.probabilistic ++
    optionalMember "rateLimitingSampling" (fun r => .object [("maxTracesPerSecond", .real r)])
      s.rateLimiting ++
    optionalMember "operationSampling" parametersJson s.operations

private theorem toJson_eq (s : Strategy) : s.toJson = .object s.written := rfl

private theorem member?_written (s : Strategy) :
    member? s.written kindNames = s.kind.map (fun k => ("strategyType", .text k.name)) ∧
      member? s.written probabilisticNames =
        s.probabilistic.map
          (fun r => ("probabilisticSampling", .object [("samplingRate", .real r)])) ∧
      member? s.written rateLimitingNames =
        s.rateLimiting.map
          (fun r => ("rateLimitingSampling", .object [("maxTracesPerSecond", .real r)])) ∧
      member? s.written parameterNames =
        s.operations.map (fun p => ("operationSampling", parametersJson p)) := by
  obtain ⟨kind, probabilistic, rateLimiting, operations⟩ := s
  refine ⟨?_, ?_, ?_, ?_⟩
  all_goals simp only [kindNames, probabilisticNames, rateLimitingNames, parameterNames, member?,
    written, Json.lookup_append, lookup_optionalMember, String.reduceEq,
    if_true, if_false, Option.none_or, Option.or_none]
  · cases kind <;> rfl
  · cases probabilistic <;> rfl
  · cases rateLimiting <;> rfl
  · cases operations <;> rfl

private theorem ofJson_toJson (sound : s.IsSound) : ofJson s.toJson = .ok s := by
  obtain ⟨kind, probabilistic, rateLimiting, operations⟩ := member?_written s
  have readKind := withDefault_written (fun v => .ofProblem (oneOf kinds v)) kind (by
    rintro (_ | _) -
    · exact ⟨nofun, rfl⟩
    · exact ⟨nofun, rfl⟩)
  have readRate := withDefault_written (readProbabilistic .document) probabilistic
    fun r there => ⟨nofun, readProbabilistic_written .document (sound.rate r there)⟩
  have readLimit := withDefault_written (readRateLimiting .document) rateLimiting
    fun r there => ⟨nofun, readRateLimiting_written .document (sound.limit r there)⟩
  have readTable := withDefault_written (readParameters .document) operations
    fun p there => ⟨nofun, readParameters_written .document (sound.operations p there)⟩
  rw [toJson_eq]
  show ((withDefault s.written _ _ _).both ((withDefault s.written _ _ _).both
    ((withDefault s.written _ _ _).both (withDefault s.written _ _ _)))).map _ = _
  rw [readKind, readRate, readLimit, readTable]
  rfl

private theorem forall_written {P : Json → Prop} (kind : ∀ k : StrategyKind, P (.text k.name))
    (rate : ∀ r ∈ s.probabilistic, P (.object [("samplingRate", .real r)]))
    (limit : ∀ r ∈ s.rateLimiting, P (.object [("maxTracesPerSecond", .real r)]))
    (operations : ∀ p ∈ s.operations, P (parametersJson p)) : ∀ m ∈ s.written, P m.2 := by
  have part {α : Type} {name : String} {write : α → Json} {o : Option α}
      (each : ∀ a ∈ o, P (write a)) : ∀ m ∈ optionalMember name write o, P m.2 := by
    cases o with
    | none => exact nofun
    | some a =>
      intro m there
      rw [List.mem_singleton.mp there]
      exact each a rfl
  intro m there
  simp only [written, List.mem_append] at there
  rcases there with ((there | there) | there) | there
  · exact part (fun k _ => kind k) m there
  · exact part rate m there
  · exact part limit m there
  · exact part operations m there

private theorem isPlain_single (name : String) (finite : x.isFinite = true) :
    (Json.object [(name, .real x)]).IsPlain := by
  refine .object fun m there => ?_
  rw [List.mem_singleton.mp there]
  exact .real finite

private theorem isPlain_parametersJson (finite : ∀ x ∈ p.numbers, x.isFinite = true) :
    (parametersJson p).IsPlain := by
  obtain ⟨rate, others⟩ := List.forall_mem_cons.mp finite
  obtain ⟨bound, rates⟩ := List.forall_mem_cons.mp others
  have operation : ∀ entry ∈ p.operations, (operationJson entry).IsPlain := by
    intro entry there
    have own := rates entry.2 (List.mem_map_of_mem there)
    refine .object (List.forall_mem_cons.mpr ⟨.text entry.1, fun m there => ?_⟩)
    rw [List.mem_singleton.mp there]
    exact isPlain_single "samplingRate" own
  refine .object (List.forall_mem_cons.mpr ⟨.real rate, List.forall_mem_cons.mpr ⟨.real bound,
    fun m there => ?_⟩⟩)
  rw [List.mem_singleton.mp there]
  refine .array fun v listed => ?_
  obtain ⟨entry, there, rfl⟩ := List.mem_map.mp listed
  exact operation entry there

private theorem isPlain_toJson (finite : ∀ x ∈ s.numbers, x.isFinite = true) :
    s.toJson.IsPlain := by
  have within : ∀ x, x ∈ s.numbers ↔ (x ∈ s.probabilistic ∨ x ∈ s.rateLimiting) ∨
      ∃ p ∈ s.operations, x ∈ p.numbers := by
    intro x
    simp [numbers, or_assoc]
  rw [toJson_eq]
  refine .object (forall_written (fun k => .text k.name) ?_ ?_ ?_)
  · exact fun r there => isPlain_single _ (finite r ((within r).mpr (.inl (.inl there))))
  · exact fun r there => isPlain_single _ (finite r ((within r).mpr (.inl (.inr there))))
  · exact fun p there => isPlain_parametersJson fun x m =>
      finite x ((within x).mpr (.inr ⟨p, there, m⟩))

private theorem depth_parametersJson (p : OperationParameters) : (parametersJson p).depth ≤ 5 := by
  have each : ∀ v ∈ p.operations.map operationJson, v.depth ≤ 3 := by
    intro v listed
    obtain ⟨entry, -, rfl⟩ := List.mem_map.mp listed
    exact le_refl 3
  have items := Json.depthOfItems_le each
  show max 1 (max 1 (max (Json.depthOfItems (p.operations.map operationJson) + 1) 0)) + 1 ≤ 5
  omega

private theorem depth_toJson (s : Strategy) : s.toJson.depth ≤ JsonDialect.document.depth := by
  have members := Json.depthOfMembers_le (forall_written (P := fun v => v.depth ≤ 5) (s := s)
    (fun _ => (by decide : 1 ≤ 5)) (fun _ _ => (by decide : 2 ≤ 5)) (fun _ _ => (by decide : 2 ≤ 5))
    fun p _ => depth_parametersJson p)
  show Json.depthOfMembers s.written + 1 ≤ 200
  omega

end Members

/-- A document of finite numbers survives being written and read: whatever of it is there, however
often it names an operation and whatever the name, its text is read as the document, and what is
read is written as the same text. -/
theorem parse_render {s : Strategy} (sound : s.IsSound)
    (finite : ∀ x ∈ s.numbers, x.isFinite = true) (service : Json) :
    parse (.text s.render) service = .ok s ∧
      ∀ s', parse (.text s.render) service = .ok s' → s'.render = s.render := by
  have text : Json.read .document s.render.toList = .ok s.toJson :=
    Json.read_render .document JsonStyle.isLegible_document (isPlain_toJson finite) (depth_toJson s)
  have reads : parse (.text s.render) service = .ok s := by
    have payload : ofPayload (.text s.render) = .ok s := by
      unfold ofPayload
      dsimp only [Payload.chars?]
      rw [text]
      exact ofJson_toJson sound
    rw [parse, payload]
    rfl
  refine ⟨reads, fun s' same => ?_⟩
  cases reads.symm.trans same
  rfl

/-- A document with all parts, in which one operation is named twice and another by no letter. -/
def fullDocument : Strategy where
  kind := some .rateLimiting
  probabilistic := some (.finite false 7205759403792794 (-56) (by decide))
  rateLimiting := some (.finite false 1 (-1074) (by decide))
  operations := some ⟨.zero true, .finite false (2 * Binary64.leastFull - 1) 971 (by decide),
    [("cart", .one), ("\"\\\n\x7f\u2028", .zero false), ("cart", .zero false)]⟩

theorem fullDocument_read_back :
    fullDocument.IsSound ∧ (∀ x ∈ fullDocument.numbers, x.isFinite = true) ∧
      parse (.text fullDocument.render) .null = .ok fullDocument ∧
      ∀ s', parse (.text fullDocument.render) .null = .ok s' → s'.render = fullDocument.render := by
  have sound : fullDocument.IsSound := isSound_of_ofJson (v := fullDocument.toJson) rfl
  have finite : ∀ x ∈ fullDocument.numbers, x.isFinite = true := by decide
  exact ⟨sound, finite, parse_render sound finite .null⟩

end Strategy

end Tracing
