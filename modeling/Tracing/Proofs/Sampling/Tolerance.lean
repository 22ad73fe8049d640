import Mathlib.Logic.Relation
import Tracing.Proofs.Json.Edits
import Tracing.Proofs.Json.Reading
import Tracing.Proofs.Sampling.RoundTrip
/-!
What a strategy document may say besides. Members that no strategy has, the order of members, which
of its two names a field goes by, and null in the place of a strategy that is not there: none of
this changes what is read, at the top of the document or inside any strategy in it.
-/

set_option autoImplicit false
set_option relaxedAutoImplicit false

namespace Tracing

open Json Conversion

/-- A reader that finds the same in a value after an edit. -/
def Tolerates {α : Type} (shape : Shape) (read : Json → Checked α) : Prop :=
  ∀ v v' a, Tidy shape v → Edit shape v v' → read v = .ok a → read v' = .ok a

section Readers

variable {α : Type} {shape : Shape} {fields : List (List String × Shape)}
variable {read : Json → Checked α} {field : List String × Shape} {ms ms' : List (String × Json)}
variable {a : α}

private theorem Tolerates.whole (read : Json → Checked α) : Tolerates .whole read :=
  fun _ _ _ _ edit => nomatch edit

private theorem Checked.under_of_ok {step : PathStep} {checked : Checked α} (ok : checked = .ok a) :
    checked.under step = .ok a := by
  rw [ok]
  rfl

private theorem nullable_of_ne_null {v : Json} (differ : v ≠ .null) :
    nullable read v = (read v).map some := by
  cases v with
  | null => exact absurd rfl differ
  | _ => rfl

private theorem Tolerates.nullable (tolerates : Tolerates shape read) :
    Tolerates shape (Conversion.nullable read) := by
  intro v v' a tidy edit found
  obtain ⟨present, present'⟩ := edit.ne_null
  rw [nullable_of_ne_null present] at found
  obtain ⟨x, own, rfl⟩ := Checked.of_map found
  rw [nullable_of_ne_null present', tolerates v v' x tidy edit own]
  rfl

private theorem Checked.items_append {before after : List Json} {i : Nat} {as : List α}
    {v v' : Json}
    (same : ∀ a, read v = .ok a → read v' = .ok a)
    (found : Checked.items read i (before ++ v :: after) = .ok as) :
    Checked.items read i (before ++ v' :: after) = .ok as := by
  induction before generalizing i as with
  | nil =>
    obtain ⟨⟨x, xs⟩, both, rfl⟩ := Checked.of_map found
    obtain ⟨here, later⟩ := Checked.of_both both
    rw [List.nil_append, Checked.items, same x (Checked.of_under here), later]
    rfl
  | cons w rest ih =>
    obtain ⟨⟨x, xs⟩, both, rfl⟩ := Checked.of_map found
    obtain ⟨here, later⟩ := Checked.of_both both
    rw [List.cons_append, Checked.items, here, ih later]
    rfl

private theorem Tolerates.items (tolerates : Tolerates shape read) (medium : Medium) :
    Tolerates (.list shape) fun v => listItems medium v >>= Checked.items read 0 := by
  intro v v' as tidy edit found
  cases edit with
  | @item _ before after w w' inner =>
    have own := tidy_list_iff.mp tidy w (by simp)
    exact Checked.items_append (fun a => tolerates w w' a own inner) found

private theorem rel_of_revised (revised : Revised fields ms ms') (known : field ∈ fields)
    (tolerates : Tolerates field.2 read) :
    Option.Rel (fun m m' => read m.2 = .ok a → read m'.2 = .ok a)
      (member? ms field.1) (member? ms' field.1) := by
  have both := revised field known
  generalize member? ms field.1 = left, member? ms' field.1 = right at both
  cases both with
  | none => exact .none
  | some same =>
    refine .some fun own => ?_
    rcases same with same | ⟨tidy, edit⟩
    · rw [same, own]
    · exact tolerates _ _ a tidy edit own

private theorem required_of_revised (revised : Revised fields ms ms') (known : field ∈ fields)
    (tolerates : Tolerates field.2 read) (found : required ms field.1 read = .ok a) :
    required ms' field.1 read = .ok a := by
  have both := rel_of_revised (a := a) revised known tolerates
  unfold required at found ⊢
  generalize member? ms field.1 = left, member? ms' field.1 = right at both found
  cases both with
  | none => cases found
  | some still => exact Checked.under_of_ok (still (Checked.of_under found))

private theorem withDefault_of_revised (revised : Revised fields ms ms') (known : field ∈ fields)
    (tolerates : Tolerates field.2 read) {standard : α}
    (found : withDefault ms field.1 standard read = .ok a) :
    withDefault ms' field.1 standard read = .ok a := by
  have both := rel_of_revised (a := a) revised known tolerates
  unfold withDefault at found ⊢
  generalize member? ms field.1 = left, member? ms' field.1 = right at both found
  cases both with
  | none => exact found
  | some still => exact Checked.under_of_ok (still (Checked.of_under found))

private theorem Tolerates.object {model : String} {medium : Medium}
    {readMembers : List (String × Json) → Checked α}
    (apart : fields.Pairwise fun field other => field.1.Disjoint other.1)
    (each : ∀ ms ms' a, Revised fields ms ms' → readMembers ms = .ok a → readMembers ms' = .ok a) :
    Tolerates (.object fields) fun v => members medium model v >>= readMembers := by
  intro v v' a tidy edit found
  obtain ⟨ms, ms', rfl, rfl, revised⟩ := revised_of_edit apart tidy edit
  exact each ms ms' a revised found

end Readers

namespace Strategy

/-- The names and shapes of the members of probabilistic sampling. -/
def probabilisticFields : List (List String × Shape) :=
  [(rateNames, .whole)]

def rateLimitingFields : List (List String × Shape) :=
  [(limitNames, .whole)]

def operationFieldNames : List (List String × Shape) :=
  [(operationNames, .whole), (probabilisticNames, .object probabilisticFields)]

def parameterFieldNames : List (List String × Shape) :=
  [(defaultRateNames, .whole), (lowerBoundNames, .whole),
    (entryNames, .list (.object operationFieldNames))]

/-- The names and shapes of the members of a document, all of which may be null or left out. -/
def documentFields : List (List String × Shape) :=
  [(kindNames, .whole), (probabilisticNames, .object probabilisticFields),
    (rateLimitingNames, .object rateLimitingFields), (parameterNames, .object parameterFieldNames)]

private theorem apart_operation :
    operationFieldNames.Pairwise fun field other => field.1.Disjoint other.1 := by
  simp [operationFieldNames, operationNames, probabilisticNames, List.Disjoint]

private theorem apart_parameters :
    parameterFieldNames.Pairwise fun field other => field.1.Disjoint other.1 := by
  simp [parameterFieldNames, defaultRateNames, lowerBoundNames, entryNames, List.Disjoint]

private theorem apart_document :
    documentFields.Pairwise fun field other => field.1.Disjoint other.1 := by
  simp [documentFields, kindNames, probabilisticNames, rateLimitingNames, parameterNames,
    List.Disjoint]

private theorem nodup_names : ∀ field ∈ documentFields, field.1.Nodup := by
  simp [documentFields, kindNames, probabilisticNames, rateLimitingNames, parameterNames]

private theorem isApart_document : Shape.IsApart (.object documentFields) := by
  have rates : Shape.IsApart (.object probabilisticFields) :=
    .object (by simp [probabilisticFields]) (by simp [probabilisticFields, Shape.IsApart.whole])
  have limits : Shape.IsApart (.object rateLimitingFields) :=
    .object (by simp [rateLimitingFields]) (by simp [rateLimitingFields, Shape.IsApart.whole])
  have operations : Shape.IsApart (.object operationFieldNames) :=
    .object apart_operation (by simp [operationFieldNames, Shape.IsApart.whole, rates])
  have parameters : Shape.IsApart (.object parameterFieldNames) :=
    .object apart_parameters
      (by simp [parameterFieldNames, Shape.IsApart.whole, Shape.IsApart.list operations])
  exact .object apart_document
    (by simp [documentFields, Shape.IsApart.whole, rates, limits, parameters])

section Readers

variable (medium : Medium)

private theorem tolerates_readProbabilistic :
    Tolerates (.object probabilisticFields) (readProbabilistic medium) := by
  refine Tolerates.object (by simp [probabilisticFields]) fun ms ms' a revised found => ?_
  exact required_of_revised revised List.mem_cons_self (.whole _) found

private theorem tolerates_readRateLimiting :
    Tolerates (.object rateLimitingFields) (readRateLimiting medium) := by
  refine Tolerates.object (by simp [rateLimitingFields]) fun ms ms' a revised found => ?_
  exact required_of_revised revised List.mem_cons_self (.whole _) found

private theorem tolerates_readOperation :
    Tolerates (.object operationFieldNames) (readOperation medium) := by
  refine Tolerates.object apart_operation fun ms ms' a revised found => ?_
  obtain ⟨name, rate⟩ := Checked.of_both found
  have name' := required_of_revised revised List.mem_cons_self (.whole _) name
  have rate' := required_of_revised revised (List.mem_cons_of_mem _ List.mem_cons_self)
    (tolerates_readProbabilistic medium) rate
  rw [name', rate']
  rfl

private theorem tolerates_readOperations :
    Tolerates (.list (.object operationFieldNames)) (readOperations medium) :=
  (tolerates_readOperation medium).items medium

private theorem tolerates_readParameters :
    Tolerates (.object parameterFieldNames) (readParameters medium) := by
  refine Tolerates.object apart_parameters fun ms ms' a revised found => ?_
  obtain ⟨⟨rate, bound, operations⟩, parts, rfl⟩ := Checked.of_map found
  obtain ⟨readRate, parts⟩ := Checked.of_both parts
  obtain ⟨readBound, readList⟩ := Checked.of_both parts
  have readRate' := required_of_revised revised List.mem_cons_self (.whole _) readRate
  have readBound' := withDefault_of_revised revised (List.mem_cons_of_mem _ List.mem_cons_self)
    (.whole _) readBound
  have readList' := withDefault_of_revised revised
    (List.mem_cons_of_mem _ (List.mem_cons_of_mem _ List.mem_cons_self))
    (tolerates_readOperations medium) readList
  dsimp only
  rw [readRate', readBound', readList']
  rfl

end Readers

section Documents

/-- Members in which every optional field of a document is read as it is in others. -/
def Keeps (ms ms' : List (String × Json)) : Prop :=
  ∀ field ∈ documentFields, ∀ {α : Type} (read : Json → Checked α), Tolerates field.2 read →
    ∀ a, withDefault ms field.1 none (nullable read) = .ok a →
      withDefault ms' field.1 none (nullable read) = .ok a

private theorem ofJson_of_keeps {ms ms' : List (String × Json)} {s : Strategy}
    (keeps : Keeps ms ms')
    (found : ofJson (.object ms) = .ok s) : ofJson (.object ms') = .ok s := by
  obtain ⟨⟨kind, rate, limit, operations⟩, parts, rfl⟩ := Checked.of_map found
  obtain ⟨readKind, parts⟩ := Checked.of_both parts
  obtain ⟨readRate, parts⟩ := Checked.of_both parts
  obtain ⟨readLimit, readTable⟩ := Checked.of_both parts
  have readKind' := keeps _ List.mem_cons_self _ (.whole _) _ readKind
  have readRate' := keeps _ (List.mem_cons_of_mem _ List.mem_cons_self) _
    (tolerates_readProbabilistic .document) _ readRate
  have readLimit' := keeps _ (List.mem_cons_of_mem _ (List.mem_cons_of_mem _ List.mem_cons_self)) _
    (tolerates_readRateLimiting .document) _ readLimit
  have readTable' := keeps _ (List.mem_cons_of_mem _ (List.mem_cons_of_mem _
    (List.mem_cons_of_mem _ List.mem_cons_self))) _ (tolerates_readParameters .document) _ readTable
  show ((withDefault ms' _ none (nullable _)).both ((withDefault ms' _ none (nullable _)).both
    ((withDefault ms' _ none (nullable _)).both (withDefault ms' _ none (nullable _))))).map _ = _
  rw [readKind', readRate', readLimit', readTable']
  rfl

private theorem keeps_of_revised {ms ms' : List (String × Json)}
    (revised : Revised documentFields ms ms') :
    Keeps ms ms' :=
  fun _ known _ _ tolerates _ found => withDefault_of_revised revised known tolerates.nullable found

/-- A name under which null says nothing: a name of a document that is not there, while names of its
field that come after it hold nothing but null themselves. -/
structure IsIdle (name : String) (ms : List (String × Json)) : Prop where
  absent : ∀ m ∈ ms, m.1 ≠ name
  known : ∃ field ∈ documentFields, ∃ earlier later, field.1 = earlier ++ name :: later ∧
    ∀ m ∈ ms, m.1 ∈ later → m.2 = .null

/-- One change of a document that says nothing. -/
inductive Revision : Json → Json → Prop where
  | edit {d d' : Json} (edit : Edit (.object documentFields) d d') : Revision d d'
  | addNull {before after : List (String × Json)} {name : String}
      (idle : IsIdle name (before ++ after)) :
      Revision (.object (before ++ after)) (.object (before ++ (name, .null) :: after))
  | dropNull {before after : List (String × Json)} {name : String}
      (idle : IsIdle name (before ++ after)) :
      Revision (.object (before ++ (name, .null) :: after)) (.object (before ++ after))

private theorem member?_append (ms : List (String × Json)) (names others : List String) :
    member? ms (names ++ others) = (member? ms names).or (member? ms others) := by
  induction names with
  | nil => rfl
  | cons name rest ih =>
    rw [List.cons_append, member?, member?, ih]
    cases lookup name ms <;> rfl

private theorem member?_congr {ms ms' : List (String × Json)} {names : List String}
    (same : ∀ name ∈ names, lookup name ms' = lookup name ms) :
    member? ms' names = member? ms names := by
  induction names with
  | nil => rfl
  | cons name rest ih =>
    obtain ⟨here, same⟩ := List.forall_mem_cons.mp same
    rw [member?, member?, here, ih same]

private theorem withDefault_of_null {α : Type} {ms : List (String × Json)} {names : List String}
    (read : Json → Checked α) (blank : ∀ m, member? ms names = some m → m.2 = .null) :
    withDefault ms names none (nullable read) = .ok none := by
  unfold withDefault
  cases found : member? ms names with
  | none => rfl
  | some m =>
    obtain ⟨name, v⟩ := m
    obtain rfl : v = .null := blank _ found
    rfl

private theorem withDefault_of_idle {α : Type} {before after : List (String × Json)} {name : String}
    (idle : IsIdle name (before ++ after)) {field : List String × Shape}
    (known : field ∈ documentFields) (read : Json → Checked α) :
    withDefault (before ++ (name, .null) :: after) field.1 none (nullable read) =
      withDefault (before ++ after) field.1 none (nullable read) := by
  obtain ⟨own, known', earlier, later, names, blank⟩ := idle.known
  have others {other : String} (differ : name ≠ other) :
      lookup other (before ++ (name, .null) :: after) = lookup other (before ++ after) :=
    lookup_insert_other differ
  by_cases same : name ∈ field.1
  · obtain rfl := eq_of_shared apart_document known known' same (by simp [names])
    have first : name ∉ earlier := by
      have distinct := nodup_names field known
      rw [names, List.nodup_append] at distinct
      exact fun there => distinct.2.2 name there name List.mem_cons_self rfl
    have before' : member? (before ++ (name, .null) :: after) earlier =
        member? (before ++ after) earlier :=
      member?_congr fun other there => others fun equal => first (equal ▸ there)
    have here : member? (before ++ (name, .null) :: after) (name :: later) =
        some (name, .null) := by
      rw [member?, lookup_insert_self idle.absent]
    have past : member? (before ++ after) (name :: later) = member? (before ++ after) later := by
      rw [member?, lookup_of_absent idle.absent]
    cases earliest : member? (before ++ after) earlier with
    | some m =>
      unfold withDefault
      rw [names, member?_append, member?_append, before', earliest]
      rfl
    | none =>
      rw [withDefault_of_null read, withDefault_of_null read]
      · intro m found
        rw [names, member?_append, earliest, past, Option.none_or] at found
        obtain ⟨isLater, there⟩ := mem_of_member? found
        exact blank m there isLater
      · intro m found
        rw [names, member?_append, before', earliest, here, Option.none_or] at found
        cases found
        rfl
  · have unseen : member? (before ++ (name, .null) :: after) field.1 =
        member? (before ++ after) field.1 :=
      member?_congr fun other there => others fun equal => same (equal ▸ there)
    unfold withDefault
    rw [unseen]

private theorem Revision.step {d d' : Json} (revision : Revision d d')
    (tidy : Tidy (.object documentFields) d) : Tidy (.object documentFields) d' ∧
      ∀ s, ofJson d = .ok s → ofJson d' = .ok s := by
  cases revision with
  | edit edit =>
    refine ⟨tidy.edit isApart_document edit, fun s found => ?_⟩
    obtain ⟨ms, ms', rfl, rfl, revised⟩ := revised_of_edit apart_document tidy edit
    exact ofJson_of_keeps (keeps_of_revised revised) found
  | addNull idle =>
    refine ⟨tidy_insert_iff.mpr ⟨tidy, fun field _ _ => ⟨.null _, idle.absent⟩⟩, fun s => ?_⟩
    exact ofJson_of_keeps fun field known _ read _ a found =>
      (withDefault_of_idle idle known read).trans found
  | dropNull idle =>
    refine ⟨(tidy_insert_iff.mp tidy).1, fun s => ?_⟩
    exact ofJson_of_keeps fun field known _ read _ a found =>
      (withDefault_of_idle idle known read).symm.trans found

private theorem ofJson_of_revisions {d d' : Json} (revisions : Relation.ReflTransGen Revision d d')
    (tidy : Tidy (.object documentFields) d) {s : Strategy} (found : ofJson d = .ok s) :
    ofJson d' = .ok s := by
  have both : Tidy (.object documentFields) d' ∧ ofJson d' = .ok s := by
    induction revisions with
    | refl => exact ⟨tidy, found⟩
    | tail _ revision ih =>
      obtain ⟨tidy, found⟩ := ih
      obtain ⟨tidy', same⟩ := revision.step tidy
      exact ⟨tidy', same s found⟩
  exact both.2

end Documents

section Texts

/-- A payload whose text is read as a value. -/
inductive Reads : Payload → Json → Prop where
  | text {s : String} {v : Json} (read : Json.read .document s.toList = .ok v) : Reads (.text s) v
  | bytes {b : List UInt8} {s : String} {v : Json} (formed : Text.ofBytes? b = some s)
      (read : Json.read .document s.toList = .ok v) : Reads (.bytes b) v

private theorem ofPayload_of_reads {payload : Payload} {v : Json} (reads : Reads payload v) :
    ofPayload payload = ofJson v := by
  cases reads with
  | text read =>
    unfold ofPayload Payload.chars?
    dsimp only
    rw [read]
  | @bytes b s _ formed read =>
    have chars : (Payload.bytes b).chars? = some s.toList := by
      unfold Payload.chars?
      dsimp only
      rw [formed]
      rfl
    unfold ofPayload
    rw [chars]
    dsimp only
    rw [read]

private theorem ofPayload_of_unread {s : String}
    (unread : (Json.read .document s.toList).isOk = false) :
    ofPayload (.text s) = .error [⟨[], .malformedDocument⟩] := by
  unfold ofPayload Payload.chars?
  dsimp only
  cases read : Json.read .document s.toList with
  | ok v => simp [read, Except.isOk, Except.toBool] at unread
  | error e => rfl

/-- A document in which no name stands twice and that is accepted may be changed where it says
nothing, any number of times and at any depth: by members with names that are not read, in the order
of its members, in which of its two names a field goes by, and by null in the place of a strategy.
It is accepted as the same strategy, and so is every text that is read as it. Null counts for
nothing under a name only as long as no name that is looked for later holds a strategy. -/
theorem ofPayload_of_revisions {payload : Payload} {d d' : Json} {s : Strategy}
    (reads : Reads payload d) (apart : d.NamesApart) (accepted : ofPayload payload = .ok s)
    (revisions : Relation.ReflTransGen Revision d d') :
    (∀ payload', Reads payload' d' → ofPayload payload' = .ok s) ∧
      (d'.IsPlain → d'.depth ≤ JsonDialect.document.depth →
        ofPayload (.text (d'.render .document)) = .ok s) := by
  rw [ofPayload_of_reads reads] at accepted
  have found := ofJson_of_revisions revisions (apart.tidy _) accepted
  have same {payload' : Payload} (reads' : Reads payload' d') : ofPayload payload' = .ok s :=
    (ofPayload_of_reads reads').trans found
  exact ⟨fun _ => same, fun plain deep =>
    same (.text (Json.read_render .document JsonStyle.isLegible_document plain deep))⟩

/-- A document that gives a rate under the field name, with other members in front. -/
def rateDocument (front : List (String × Json)) : Json :=
  .object (front ++ [("probabilistic_sampling", .object [("samplingRate", .integer 1)])])

private theorem namesApart_rateDocument : (rateDocument []).NamesApart := by
  have scalar : Json.NamesApart (.integer 1) := .mk nofun nofun nofun
  have rate : Json.NamesApart (.object [("samplingRate", .integer 1)]) := by
    refine .mk nofun ?_ ?_
    · rintro _ ⟨⟩
      exact List.nodup_singleton _
    · rintro _ ⟨⟩
      exact List.forall_mem_singleton.mpr scalar
  refine .mk nofun ?_ ?_
  · rintro _ ⟨⟩
    exact List.nodup_singleton _
  · rintro _ ⟨⟩
    exact List.forall_mem_singleton.mpr rate

/-- The same rate under the wire name, beside a limit that is null and a member that is not read. -/
def otherDocument : Json :=
  .object [("rate_limiting_sampling", .null),
    ("probabilisticSampling", .object [("sampling_rate", .integer 1), ("ttl", .integer 60)])]

private theorem revisions_otherDocument :
    Relation.ReflTransGen Revision (rateDocument []) otherDocument := by
  have inner : Edit (.object probabilisticFields)
      (.object ([] ++ ("samplingRate", .integer 1) :: []))
      (.object ([] ++ ("sampling_rate", .integer 1) :: [])) :=
    .rename List.mem_cons_self (by simp [rateNames]) (by simp [rateNames]) (by simp)
  have more : Edit (.object probabilisticFields) (.object ([("sampling_rate", .integer 1)] ++ []))
      (.object ([("sampling_rate", .integer 1)] ++ ("ttl", .integer 60) :: [])) :=
    .add (by simp [probabilisticFields, rateNames])
  have probabilistic : (probabilisticNames, Shape.object probabilisticFields) ∈ documentFields := by
    simp [documentFields]
  have deep {v v' : Json} (edit : Edit (.object probabilisticFields) v v') :
      Edit (.object documentFields) (.object ([] ++ ("probabilistic_sampling", v) :: []))
        (.object ([] ++ ("probabilistic_sampling", v') :: [])) :=
    .inside probabilistic (by simp [probabilisticNames]) edit
  have other (v : Json) :
      Edit (.object documentFields) (.object ([] ++ ("probabilistic_sampling", v) :: []))
        (.object ([] ++ ("probabilisticSampling", v) :: [])) :=
    .rename probabilistic (by simp [probabilisticNames]) (by simp [probabilisticNames]) (by simp)
  have idle (v : Json) : IsIdle "rate_limiting_sampling" ([("probabilisticSampling", v)] ++ []) :=
    ⟨by simp, (rateLimitingNames, .object rateLimitingFields),
      by simp [documentFields], ["rateLimitingSampling"], [], rfl, by simp⟩
  have nulled (v : Json) : Revision (.object ([("probabilisticSampling", v)] ++ []))
      (.object ([("probabilisticSampling", v)] ++ ("rate_limiting_sampling", .null) :: [])) :=
    .addNull (idle v)
  have swapped : Revision (.object [("probabilisticSampling", _), _]) otherDocument :=
    .edit (.permute (List.Perm.swap _ _ _))
  exact .tail (.tail (.tail (.tail (.tail .refl (.edit (deep inner))) (.edit (deep more)))
    (.edit (other _))) (nulled _)) swapped

theorem rate_under_other_names :
    Reads (.text ((rateDocument []).render .document)) (rateDocument []) ∧
      (rateDocument []).NamesApart ∧
      Relation.ReflTransGen Revision (rateDocument []) otherDocument ∧
      ofPayload (.text (otherDocument.render .document)) =
        .ok { probabilistic := some .one } := by
  have short (n : Int) (small : (decimalDigits n.natAbs).length ≤ integerDigitLimit) :
      Json.IsPlain (.integer n) := .integer small
  have plain : (rateDocument []).IsPlain := by
    refine .object (List.forall_mem_singleton.mpr (.object (List.forall_mem_singleton.mpr ?_)))
    exact short 1 (by decide)
  have plain' : otherDocument.IsPlain := by
    refine .object (List.forall_mem_cons.mpr ⟨.null, List.forall_mem_singleton.mpr ?_⟩)
    exact .object (List.forall_mem_cons.mpr ⟨short 1 (by decide),
      List.forall_mem_singleton.mpr (short 60 (by decide))⟩)
  have reads : Reads (.text ((rateDocument []).render .document)) (rateDocument []) :=
    .text (Json.read_render .document JsonStyle.isLegible_document plain (by decide))
  have accepted : ofPayload (.text ((rateDocument []).render .document)) =
      .ok { probabilistic := some .one } := by decide +kernel
  exact ⟨reads, namesApart_rateDocument, revisions_otherDocument,
    (ofPayload_of_revisions reads namesApart_rateDocument accepted revisions_otherDocument).2
      plain' (by decide)⟩

/-- An array in an array and so on. -/
def nested : Nat → Json
  | 0 => .array []
  | n + 1 => .array [nested n]

private theorem toList_write_nested (level n : Nat) :
    ((nested n).write .document level).toList =
      List.replicate (n + 1) '[' ++ List.replicate (n + 1) ']' := by
  induction n generalizing level with
  | zero =>
    rw [nested, Json.write, Json.writeItems_eq, List.map_nil, Json.toList_bracket_nil]
    rfl
  | succ n ih =>
    have unbroken (level : Nat) : (JsonStyle.document.lineBreak level).toList = [] := rfl
    have closing : List.replicate (n + 1 + 1) ']' = List.replicate (n + 1) ']' ++ [']'] :=
      List.replicate_succ'
    rw [nested, Json.write, Json.writeItems_eq, Json.toList_bracket, ih, unbroken, unbroken,
      closing, List.replicate_succ (n := n + 1)]
    simp

private theorem toList_render_rateDocument (m : String × Json) :
    ((rateDocument [m]).render .document).toList =
      ['\x7b'] ++ ((Json.writeMember .document 1 m).toList ++
        ",\"probabilistic_sampling\":\x7b\"samplingRate\":1\x7d\x7d".toList) := by
  have unbroken (level : Nat) : (JsonStyle.document.lineBreak level).toList = [] := rfl
  have rate : [("probabilistic_sampling", Json.object [("samplingRate", .integer 1)])].flatMap
      (fun other => ',' :: ([] ++ (Json.writeMember .document 1 other).toList)) ++
        "\x7d".toList = ",\"probabilistic_sampling\":\x7b\"samplingRate\":1\x7d\x7d".toList := by
    decide +kernel
  unfold rateDocument Json.render
  rw [Json.write, Json.writeMembers_eq, List.cons_append, List.nil_append, Json.toList_bracket,
    unbroken, unbroken, List.nil_append, List.nil_append, rate]
  rfl

/-- Null under the wire name hides what stands under the field name, and a member that is not read
may be too deep for a document to be read at all. -/
theorem null_and_depth_seen : (rateDocument []).NamesApart ∧
    ofPayload (.text ((rateDocument []).render .document)) = .ok { probabilistic := some .one } ∧
    ofPayload (.text ((rateDocument [("probabilisticSampling", .null)]).render .document)) =
      .ok {} ∧
    Edit (.object documentFields) (rateDocument []) (rateDocument [("later", nested 250)]) ∧
    ofPayload (.text ((rateDocument [("later", nested 250)]).render .document)) =
      .error [⟨[], .malformedDocument⟩] := by
  have deep := toList_render_rateDocument ("later", nested 250)
  unfold Json.writeMember at deep
  rw [String.toList_append, toList_write_nested] at deep
  have unread : (Json.read .document
      ((rateDocument [("later", nested 250)]).render .document).toList).isOk = false := by
    rw [deep]
    decide +kernel
  refine ⟨namesApart_rateDocument, by decide +kernel, by decide +kernel, ?_,
    ofPayload_of_unread unread⟩
  have unknown : ∀ field ∈ documentFields, "later" ∉ field.1 := by
    simp [documentFields, kindNames, probabilisticNames, rateLimitingNames, parameterNames]
  have added (ms : List (String × Json)) : Edit (.object documentFields) (.object ([] ++ ms))
      (.object ([] ++ ("later", nested 250) :: ms)) := .add unknown
  exact added _

end Texts

end Strategy

end Tracing
