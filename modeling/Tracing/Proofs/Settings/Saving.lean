import Tracing.Proofs.Json.Members
import Tracing.Proofs.Json.Reading
import Tracing.Proofs.Settings.Validity
/-!
Saved settings are loaded again. The text of a file holds every member in full, the reader of files
finds them all, and where no variable is the tracer's own nothing is laid under them.
-/

set_option autoImplicit false
set_option relaxedAutoImplicit false

namespace Tracing

private theorem JsonStyle.isLegible_saved : JsonStyle.saved.IsLegible where
  nameEnd := ⟨[' '], rfl, fun c mem => by rw [List.mem_singleton.mp mem]; rfl⟩
  numbers := by decide

/-! ### Small letters -/

namespace Text

def smallLetter (c : Char) : Char :=
  if 0x41 ≤ c.toNat ∧ c.toNat ≤ 0x5A then Char.ofNat (c.toNat + 32) else c

private theorem lowerChar_ascii {c : Char} (ascii : c.toNat < 0x80) : lowerChar c =
    [smallLetter c] := by
  have runs : smallRuns.toList = ⟨0x41, 0x5A, 1, 32⟩ :: smallRuns.toList.tail := rfl
  have others : ∀ r ∈ smallRuns.toList.tail, 0x80 ≤ r.first := by decide +kernel
  have beyond : smallRuns.toList.tail.find? (fun r => r.contains c.toNat) = none := by
    refine List.find?_eq_none.mpr fun r mem inside => ?_
    have low : r.first ≤ c.toNat := by
      rw [CaseRun.contains, Bool.and_eq_true, Bool.and_eq_true] at inside
      exact of_decide_eq_true inside.1.1
    exact absurd (others r mem) (by omega)
  have undotted : c ≠ '\u0130' := by
    rintro rfl
    exact absurd ascii (by decide)
  rw [lowerChar, if_neg undotted, shifted, ← Array.find?_toList, runs, List.find?_cons, beyond,
    smallLetter]
  by_cases capital : 0x41 ≤ c.toNat ∧ c.toNat ≤ 0x5A
  · have inside : CaseRun.contains ⟨0x41, 0x5A, 1, 32⟩ c.toNat = true := by
      simp [CaseRun.contains, capital, Nat.mod_one]
    rw [inside, if_pos capital]
    rfl
  · have outside : CaseRun.contains ⟨0x41, 0x5A, 1, 32⟩ c.toNat = false :=
      Bool.eq_false_iff.mpr fun inside => capital <| by
        simpa [CaseRun.contains, Nat.mod_one] using inside
    rw [outside, if_neg capital]

private theorem lowerAfter_ascii {cs : List Char} (ascii : ∀ c ∈ cs, c.toNat < 0x80)
    (before : List Char) : lowerAfter before cs = cs.map smallLetter := by
  induction cs generalizing before with
  | nil => rfl
  | cons c rest ih =>
    obtain ⟨this, others⟩ := List.forall_mem_cons.mp ascii
    have sigma : c ≠ '\u03A3' := by
      rintro rfl
      exact absurd this (by decide)
    rw [lowerAfter, ih others, lowerChar_ascii this]
    simp [sigma]

def IsAscii (s : String) : Prop := ∀ c ∈ s.toList, c.toNat < 0x80

instance (s : String) : Decidable (IsAscii s) := List.decidableBAll _ s.toList

private theorem IsAscii.append {s t : String} (first : IsAscii s) (second : IsAscii t) :
    IsAscii (s ++ t) := by
  intro c mem
  rw [String.toList_append, List.mem_append] at mem
  exact mem.elim (first c) (second c)

private theorem toList_lower {s : String} (ascii : IsAscii s) :
    (lower s).toList = s.toList.map smallLetter := by
  rw [lower, String.toList_ofList, lowerAfter_ascii ascii]

private theorem lower_of_small {s : String} (ascii : IsAscii s)
    (small : s.toList.map smallLetter = s.toList) : lower s = s := by
  rw [← String.toList_inj, toList_lower ascii, small]

end Text

/-! ### Variables that are not the tracer's -/

namespace Environment

/-- What the names of the tracer's own variables begin with, once small. -/
def ownFront : List Char := "tracegate_".toList

/-- No variable is the tracer's own, capitals or not. -/
def IsForeign (env : Environment) : Prop :=
  ∀ entry ∈ env, ¬ ownFront <+: (Text.lower entry.1).toList

private theorem ownFront_variableOf {name : String} (ascii : Text.IsAscii name) :
    ownFront <+: (variableOf {} name).toList := by
  have front : Text.IsAscii "TRACEGATE_" := by decide
  have whole : Text.IsAscii ("TRACEGATE_" ++ name) := front.append ascii
  show ownFront <+: (Text.lower ("TRACEGATE_" ++ name)).toList
  rw [Text.toList_lower whole, String.toList_append, List.map_append]
  exact List.prefix_append _ _

private theorem prefix_of_suffix? {front cs rest : List Char} (h : suffix? front cs = some rest) :
    front <+: cs := by
  induction front generalizing cs with
  | nil => exact List.nil_prefix
  | cons a as ih =>
    cases cs with
    | nil => cases h
    | cons b bs =>
      rw [suffix?] at h
      split at h
      next same => exact List.cons_prefix_cons.mpr ⟨same, ih h⟩
      · cases h

/-- No variable, under its small name, begins as the tracer's own do. -/
def AreForeign (vars : List (String × Json)) : Prop :=
  ∀ v ∈ vars, ¬ ownFront <+: v.1.toList

private theorem IsForeign.normalized {env : Environment} (foreign : env.IsForeign) :
    AreForeign (env.normalized {}) := by
  intro v mem
  obtain ⟨named, there, same⟩ :=
    List.mem_map.mp (Json.names_distinct _ (List.mem_map_of_mem mem))
  obtain ⟨entry, kept, rfl⟩ := List.mem_map.mp there
  rw [← same]
  exact foreign entry (List.mem_of_mem_filter kept)

section Foreign

variable {vars : List (String × Json)} (foreign : AreForeign vars) {name : String}
  (own : ownFront <+: (variableOf {} name).toList)

include foreign own

private theorem lookup_foreign : Json.lookup (variableOf {} name) vars = none :=
  Json.lookup_of_absent fun v mem same => foreign v mem (same ▸ own)

private theorem explode_foreign (choose : List String → Json → Json) :
    explode {} vars name choose = [] := by
  have delimiter : ¬ ({} : VariableRules).delimiter.isEmpty = true := by decide
  rw [explode, if_neg delimiter]
  dsimp only
  induction vars with
  | nil => rfl
  | cons v rest ih =>
    obtain ⟨this, others⟩ := List.forall_mem_cons.mp foreign
    have apart : suffix? ((variableOf {} name).toList ++ "__".toList) v.1.toList = none :=
      Option.eq_none_iff_forall_ne_some.mpr fun rest found =>
        this (own.trans ((List.prefix_append _ _).trans (prefix_of_suffix? found)))
    rw [List.foldl_cons, apart]
    exact ih others

private theorem group?_foreign (known : List String) (choose : List String → Json → Json) :
    group? {} vars known name choose = .ok none := by
  rw [group?, lookup_foreign foreign own, explode_foreign foreign own]
  rfl

end Foreign

private theorem knownName_of_small {known : List String} {name : String}
    (small : Text.lower name = name) :
    knownName {} known name = name := by
  show (if known.contains (Text.lower name) then Text.lower name else name) = name
  rw [small, ite_self]

private theorem foldGiven_of_small {known : List String} {ms : List (String × Json)}
    (small : ∀ m ∈ ms, Text.lower m.1 = m.1) (nodup : (ms.map Prod.fst).Nodup) :
    foldGiven {} known ms = ms := by
  suffices later : ∀ done : List (String × Json), ((done ++ ms).map Prod.fst).Nodup →
      ms.foldl (fun done m =>
        let name := knownName {} known m.1
        if (Json.lookup name done).isSome then done else done ++ [(name, m.2)]) done = done ++ ms
    from later [] nodup
  clear nodup
  induction ms with
  | nil => exact fun done _ => (List.append_nil done).symm
  | cons m rest ih =>
    obtain ⟨this, others⟩ := List.forall_mem_cons.mp small
    intro done nodup
    have absent := Json.lookup_of_new (Json.new_of_nodup nodup)
    rw [List.append_cons] at nodup
    rw [List.foldl_cons]
    dsimp only
    rw [knownName_of_small this, absent]
    exact (ih others _ nodup).trans (List.append_cons done m rest).symm

private theorem overlayMembers_of_nodup {ms : List (String × Json)}
    (nodup : (ms.map Prod.fst).Nodup) :
    overlayMembers [] ms = ms := by
  suffices later : ∀ done : List (String × Json), ((done ++ ms).map Prod.fst).Nodup →
      overlayMembers done ms = done ++ ms from later [] nodup
  clear nodup
  induction ms with
  | nil => exact fun done _ => by rw [overlayMembers, List.append_nil]
  | cons m rest ih =>
    intro done nodup
    have new := Json.new_of_nodup nodup
    rw [List.append_cons] at nodup
    rw [overlayMembers, Json.lookup_of_new new]
    dsimp only
    rw [Json.put_of_new new, ih _ nodup, List.append_cons done m rest]

end Environment

namespace TracerSettings

open Environment

private theorem environmentMembers_foreign {env : Environment} (foreign : env.IsForeign) :
    environmentMembers {} env = .ok [] := by
  have vars := foreign.normalized
  rw [environmentMembers]
  dsimp only
  rw [group?_foreign vars (ownFront_variableOf (by decide)),
    group?_foreign vars (ownFront_variableOf (by decide)),
    lookup_foreign vars (ownFront_variableOf (by decide)),
    lookup_foreign vars (ownFront_variableOf (by decide))]
  rfl

variable {s : TracerSettings}

private theorem foldGiven_members (s : TracerSettings) :
    foldGiven {} memberNames s.members = s.members := by
  have letters : ∀ name ∈ memberNames, Text.IsAscii name ∧
      name.toList.map Text.smallLetter = name.toList := by decide
  refine foldGiven_of_small (fun m mem => ?_) (show memberNames.Nodup by decide)
  have known : m.1 ∈ memberNames := List.mem_map_of_mem (f := Prod.fst) mem
  exact Text.lower_of_small (letters m.1 known).1 (letters m.1 known).2

private theorem create_of_parts {given below : List (String × Json)} {env : Environment}
    {rules : VariableRules} (once : Json.distinct given = given)
    (ruled : VariableRules.ofMembers given = .ok rules)
    (laid : environmentMembers rules env = .ok below)
    (placed : VariableRules.misplaceSecrets given = false)
    (settings : given.filter (fun (k, _) => !VariableRules.isReserved k) = given) :
    create given env =
      (ofMembers (overlayMembers below (foldGiven rules memberNames given))).mapError .invalid := by
  rw [create]
  dsimp only
  rw [once, ruled]
  show environmentMembers rules env >>= (fun below => _) = _
  rw [laid]
  show (if VariableRules.misplaceSecrets given then _ else _) = _
  rw [placed, settings]
  rfl

private theorem create_members (valid : s.IsValid) {env : Environment} (foreign : env.IsForeign) :
    create s.members env = .ok s.literal := by
  have nodup : (s.members.map Prod.fst).Nodup := show memberNames.Nodup by decide
  have rules : VariableRules.ofMembers s.members = .ok {} := rfl
  rw [create_of_parts (Json.distinct_of_nodup nodup) rules (environmentMembers_foreign foreign) rfl
    rfl, foldGiven_members, overlayMembers_of_nodup nodup, ofMembers_members valid]
  rfl

/-! ### The text of a file -/

def reals (s : TracerSettings) : List Binary64 :=
  [s.sampler.parameter, s.sampler.pollingInterval, s.sampler.httpTimeout, s.reporter.flushInterval,
    s.reporter.closeEnqueueTimeout, s.reporter.closeDrainTimeout, s.reporter.httpTimeout]

/-- Whether a text shows every digit of an integer. -/
def IsShort (n : Int) : Prop := (decimalDigits n.natAbs).length ≤ Json.integerDigitLimit

instance (n : Int) : Decidable (IsShort n) := inferInstanceAs (Decidable (_ ≤ _))

private theorem write_of_short (short : ∀ n ∈ s.integers, IsShort n) : s.write = .ok s.save := by
  rw [write, if_pos]
  exact List.all_eq_true.mpr fun n mem => decide_eq_true (short n mem)

private theorem of_write {text : String} (h : s.write = .ok text) :
    text = s.save ∧ ∀ n ∈ s.integers, IsShort n := by
  rw [write] at h
  split at h
  next short =>
    cases h
    exact ⟨rfl, fun n mem => of_decide_eq_true (List.all_eq_true.mp short n mem)⟩
  · cases h

private theorem isPlain_optionalJson (word : Option String) :
    (Sender.optionalJson word).IsPlain := by
  cases word with
  | none => exact .null
  | some s => exact .text s

private theorem isPlain_toJson (finite : ∀ x ∈ s.reals, x.isFinite = true)
    (short : ∀ n ∈ s.integers, IsShort n) : s.toJson.IsPlain := by
  simp only [reals, integers, List.forall_mem_cons] at finite short
  obtain ⟨parameter, polling, samplerTimeout, flush, enqueue, drain, timeout, -⟩ := finite
  obtain ⟨operations, queue, batch, filter, defer_, -⟩ := short
  have sampler : s.sampler.toJson.IsPlain := by
    refine .object ?_
    simp only [List.forall_mem_cons]
    exact ⟨.text _, .real parameter, .text _, .real polling, .integer operations,
      .real samplerTimeout, nofun⟩
  have reporter : s.reporter.toJson.IsPlain := by
    refine .object ?_
    simp only [List.forall_mem_cons]
    exact ⟨.truth _, .real flush, .integer queue, .real enqueue, .real drain,
      isPlain_optionalJson _, isPlain_optionalJson _, .integer batch, .real timeout,
      .integer filter, .integer defer_, nofun⟩
  refine .object ?_
  simp only [List.forall_mem_cons]
  exact ⟨.text _, .text _, sampler, reporter, nofun⟩

private theorem depth_optionalJson (word : Option String) :
    (Sender.optionalJson word).depth = 1 := by
  cases word <;> rfl

private theorem depth_toJson (s : TracerSettings) : s.toJson.depth = 3 := by
  simp [toJson, SamplerSettings.toJson, ReporterSettings.toJson, Json.depth, Json.depthOfMembers,
    depth_optionalJson]

private theorem read_save (finite : ∀ x ∈ s.reals, x.isFinite = true)
    (short : ∀ n ∈ s.integers, IsShort n) :
    Json.read .settings s.save.toList = .ok (.object s.members) := by
  have deep : s.toJson.depth ≤ JsonDialect.settings.depth :=
    (depth_toJson s).trans_le (by decide)
  exact Json.read_render .settings JsonStyle.isLegible_saved (isPlain_toJson finite short) deep

private theorem load_save (valid : s.IsValid) (finite : ∀ x ∈ s.reals, x.isFinite = true)
    (short : ∀ n ∈ s.integers, IsShort n) {env : Environment} (foreign : env.IsForeign) :
    load (.text s.save) env = .ok s.literal := by
  have text := read_save finite short
  unfold load
  dsimp only [Payload.chars?]
  rw [text]
  exact create_members valid foreign

private theorem loadFile_of_file {folder : Folder} {path : String} {content : Payload}
    (env : Environment)
    (stands : folder.place (FilePath.ofText path) = .file content) :
    loadFile folder path env = load content env := by
  unfold loadFile
  simp only [stands]

/-! ### Equality -/

private theorem eq_refl_of_isFinite {x : Binary64} (finite : x.isFinite = true) :
    x.eq x = true := by
  cases x with
  | finite negative m e canonical => exact Binary64.eq_iff.mpr ⟨_, rfl, rfl⟩
  | nan | infinite => cases finite

private theorem same_literal (finite : ∀ x ∈ s.reals, x.isFinite = true) :
    s.literal.same s = true := by
  simp only [reals, List.forall_mem_cons] at finite
  obtain ⟨parameter, polling, samplerTimeout, flush, enqueue, drain, timeout, -⟩ := finite
  simp [same, literal, SamplerSettings.same, SamplerSettings.sameParameter, ReporterSettings.same,
    eq_refl_of_isFinite, *]

/-- Settings of finite numbers survive being saved and loaded, however they were made. They are
written unless an integer has too many digits, and what was written is loaded as equal settings by
whoever has no variable of the tracer's own, from the text as from any file that holds it. -/
theorem loaded_of_written {given : List (String × Json)} {made env : Environment}
    (created : create given made = .ok s) (finite : ∀ x ∈ s.reals, x.isFinite = true)
    (foreign : env.IsForeign) :
    ((∃ text, s.write = .ok text) ↔ ∀ n ∈ s.integers, IsShort n) ∧
      ∀ text, s.write = .ok text →
        ∃ again, load (.text text) env = .ok again ∧ again.same s = true ∧ again = s.literal ∧
          ∀ (folder : Folder) (path : String),
            folder.place (FilePath.ofText path) = .file (.text text) →
              loadFile folder path env = .ok again := by
  refine ⟨⟨fun ⟨text, written⟩ => (of_write written).2, fun short => ⟨_, write_of_short short⟩⟩,
    fun text written => ?_⟩
  obtain ⟨rfl, short⟩ := of_write written
  have loaded := load_save (isValid_of_create created) finite short foreign
  exact ⟨s.literal, loaded, same_literal finite, rfl, fun folder path stands =>
    (loadFile_of_file env stands).trans loaded⟩

def unusual : TracerSettings where
  service := "caf\u00e9 \"\\\n"
  metricsPrefix := ""
  sampler := {
    choice := .rateLimiting
    parameter := .finite true 3 (-1074) (by decide)
    managerHostPort := "agent:1"
    pollingInterval := .finite false 5404319552844595 (-54) (by decide)
    maxOperations := 9223372036854775808
    httpTimeout := .one }
  reporter := {
    logSpans := true
    flushInterval := .one
    maxQueueSize := 1
    closeEnqueueTimeout := .zero true
    closeDrainTimeout := .one
    endpoint := some "http://collector/\u00fc\u2028"
    authToken := some ""
    maxBatchSize := 2
    httpTimeout := .one
    filterBelow := 5
    deferBelow := 9 }

def homeAndPath : Environment := [("HOME", "/root"), ("trace_gate", "TRACEGATE_")]

theorem unusual_loaded_again :
    unusual.write = .ok unusual.save ∧
      load (.text unusual.save) homeAndPath = .ok unusual ∧
      loadFile [("shop.json", .text unusual.save)] "shop.json" homeAndPath = .ok unusual := by
  have valid : unusual.IsValid := by
    refine ⟨by decide, ?_, ?_⟩ <;> constructor <;> decide +kernel
  have none : Environment.IsForeign [] := nofun
  have foreign : homeAndPath.IsForeign := by
    have letters : ∀ v ∈ homeAndPath, Text.IsAscii v.1 ∧
        ¬ ownFront <+: v.1.toList.map Text.smallLetter := by decide
    intro v mem
    rw [Text.toList_lower (letters v mem).1]
    exact (letters v mem).2
  have created : create unusual.members [] = .ok unusual := create_members valid none
  have finite : ∀ x ∈ unusual.reals, x.isFinite = true := by decide
  have short : ∀ n ∈ unusual.integers, IsShort n := by decide +kernel
  have written := write_of_short short
  obtain ⟨-, loads⟩ := loaded_of_written created finite foreign
  obtain ⟨again, loaded, -, rfl, files⟩ := loads _ written
  exact ⟨written, loaded, files [("shop.json", .text unusual.save)] "shop.json" rfl⟩

end TracerSettings

end Tracing
