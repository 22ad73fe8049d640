import Mathlib.Algebra.Ring.Int.Defs
import Tracing.Metrics.Store
import Tracing.Proofs.Metrics.Naming
/-!
What a store of counters and gauges shows. Whatever was done with it, a counter shows the sum of
what was added through the counters of its name and tags, and a gauge shows what was last set
through those of its name and tags; where none was made, minus one is shown. What is refused changes
nothing.
-/

set_option autoImplicit false
set_option relaxedAutoImplicit false

namespace Tracing

namespace Number

/-- The sum of numbers one after the other, where every addition has a result. -/
def sum? (ns : List Number) : Option Number := ns.foldlM add? (.integer 0)

private theorem sum?_concat (ns : List Number) (n : Number) :
    sum? (ns ++ [n]) = (sum? ns).bind fun v => v.add? n := by
  simp [sum?, List.foldlM_append]

private theorem sum?_of_whole {ns : List Number} {is : List Int}
    (whole : ns.map toInt? = is.map some) :
    sum? ns = some (.integer is.sum) := by
  suffices later : ∀ m : Int, ns.foldlM add? (.integer m) = some (.integer (m + is.sum)) by
    simpa [sum?] using later 0
  induction ns generalizing is with
  | nil =>
    obtain rfl : is = [] := by simpa using whole.symm
    exact fun m => by simp
  | cons n rest ih =>
    cases is with
    | nil => cases whole
    | cons i others =>
      obtain ⟨first, whole⟩ := List.cons.inj whole
      intro m
      have added : add? (.integer m) n = some (.integer (m + i)) := by
        simp [add?, show toInt? (.integer m) = some m from rfl, first]
      rw [List.foldlM_cons, added, List.sum_cons, ← Int.add_assoc]
      exact ih whole (m + i)

end Number

namespace Metrics

namespace Cells

variable {V : Type} (key other : String) (value : V) (cells : Cells V)

private theorem find?_concat :
    find? other (cells ++ [(key, value)]) =
      (find? other cells).or (if key = other then some value else none) := by
  induction cells with
  | nil => simp [find?]
  | cons cell rest ih =>
    rw [List.cons_append, find?, find?, ih]
    split <;> rfl

private theorem find?_create :
    find? other (create key value cells) =
      if key = other then some ((find? key cells).getD value) else find? other cells := by
  rw [create]
  by_cases same : key = other
  · subst same
    cases there : find? key cells <;> simp [find?_concat, there]
  · cases find? key cells <;> simp [find?_concat, same]

private theorem find?_set :
    find? other (set key value cells) =
      if key = other then (find? key cells).map fun _ => value else find? other cells := by
  induction cells with
  | nil => simp [find?, set]
  | cons cell rest ih =>
    rw [set]
    by_cases same : key = other
    · subst same
      by_cases here : cell.1 = key <;> simp_all [find?]
    · by_cases here : cell.1 = key <;> simp_all [find?]

end Cells

/-- A use of a store. Instruments are named by their places among those of their kind. -/
inductive Use where
  | makeCounter (label : Label)
  | makeGauge (label : Label)
  | increment (place : Nat) (delta : Json)
  | update (place : Nat) (amount : Json)
  | readCounter (name : String) (query : TagQuery)
  | readGauge (name : String) (query : TagQuery)

inductive Answer where
  | done
  | refused (why : Refusal)
  | count (n : Number)
  | level (v : Json)
  /-- There is no such instrument. -/
  | missing

/-- A store and the keys of the instruments that it gave out. -/
structure Session where
  store : Store := {}
  counters : List String := []
  gauges : List String := []

def Session.use (s : Session) : Use → Answer × Session
  | .makeCounter label =>
    let (key, store) := s.store.createCounter label.name (textTags label.tags)
    (.done, { s with store, counters := s.counters ++ [key] })
  | .makeGauge label =>
    let (key, store) := s.store.createGauge label.name (textTags label.tags)
    (.done, { s with store, gauges := s.gauges ++ [key] })
  | .increment place delta =>
    match s.counters[place]? with
    | none => (.missing, s)
    | some key =>
      match s.store.incrementGiven key delta with
      | .ok store => (.done, { s with store })
      | .error why => (.refused why, s)
  | .update place amount =>
    match s.gauges[place]? with
    | none => (.missing, s)
    | some key => (.done, { s with store := s.store.update key amount })
  | .readCounter name query => (.count (s.store.counter name query), s)
  | .readGauge name query => (.level (s.store.gauge name query), s)

/-- What was done with a store: the instruments that were made, and what was added and set through
them, each with the label of its instrument. -/
structure History where
  counters : List Label := []
  gauges : List Label := []
  added : List (Label × Number) := []
  updated : List (Label × Json) := []

namespace History

/-- A use that was refused leaves no trace. -/
def record (h : History) : Use → Answer → History
  | .makeCounter label, _ => { h with counters := h.counters ++ [label] }
  | .makeGauge label, _ => { h with gauges := h.gauges ++ [label] }
  | .increment place delta, .done =>
    match h.counters[place]?, delta.toNumber? with
    | some label, some n => { h with added := h.added ++ [(label, n)] }
    | _, _ => h
  | .update place amount, .done =>
    match h.gauges[place]? with
    | some label => { h with updated := h.updated ++ [(label, amount)] }
    | none => h
  | _, _ => h

end History

def Label.IsAmong (l : Label) (made : List Label) : Prop := ∃ other ∈ made, other.Same l

/-- What was moved through the instruments of a label. -/
def movesOf {M : Type} (l : Label) (moved : List (Label × M)) : List M :=
  (moved.filter fun move => decide (move.1.Same l)).map Prod.snd

/-- What a gauge shows that was set to some values. -/
def latest (values : List Json) : Json := values.getLast?.getD (.integer 0)

def runUses : Session → History → List Use → Session × History
  | s, h, [] => (s, h)
  | s, h, use :: rest => runUses (s.use use).2 (h.record use (s.use use).1) rest

section Moves

variable {M : Type} {l l' label : Label} {made : List Label} {moved : List (Label × M)}

private theorem Label.IsAmong.congr (among : l.IsAmong made) (same : l.Same l') :
    l'.IsAmong made := by
  obtain ⟨other, mem, first⟩ := among
  exact ⟨other, mem, first.trans same⟩

private theorem Label.isAmong_concat :
    l.IsAmong (made ++ [label]) ↔ l.IsAmong made ∨ label.Same l := by
  simp [IsAmong, or_and_right, exists_or]

private theorem movesOf_concat (m : M) :
    movesOf l (moved ++ [(label, m)]) =
      movesOf l moved ++ if label.Same l then [m] else [] := by
  rw [movesOf, List.filter_append, List.map_append, movesOf]
  by_cases same : label.Same l <;> simp [same]

private theorem movesOf_congr (same : l.Same l') : movesOf l moved = movesOf l' moved := by
  have alike : ∀ other : Label, other.Same l ↔ other.Same l' := fun other =>
    ⟨fun first => first.trans same, fun first => first.trans same.symm⟩
  simp only [movesOf, alike]

private theorem movesOf_eq_nil (known : ∀ move ∈ moved, move.1.IsAmong made)
    (absent : ¬ l.IsAmong made) : movesOf l moved = [] := by
  rw [movesOf, List.map_eq_nil_iff, List.filter_eq_nil_iff]
  exact fun move mem same => absent ((known move mem).congr (of_decide_eq_true same))

end Moves

/-- Cells show what was moved: a cell of a label is there once an instrument of it was made, and it
holds what the moves through those instruments come to. -/
structure Show {V M : Type} (value : List M → Option V) (cells : Cells V) (made : List Label)
    (moved : List (Label × M)) : Prop where
  held : ∀ l : Label, l.IsAmong made →
    ∃ v, cells.find? l.key = some v ∧ value (movesOf l moved) = some v
  absent : ∀ l : Label, ¬ l.IsAmong made → cells.find? l.key = none
  known : ∀ move ∈ moved, move.1.IsAmong made

namespace Show

variable {V M : Type} {value : List M → Option V} {cells : Cells V} {made : List Label}
  {moved : List (Label × M)} {label : Label}

private theorem empty : Show value [] [] [] :=
  ⟨fun _ ⟨_, mem, _⟩ => (nomatch mem), fun _ _ => rfl, nofun⟩

private theorem create (h : Show value cells made moved) (label : Label) {first : V}
    (start : value [] = some first) :
    Show value (cells.create label.key first) (made ++ [label]) moved := by
  refine ⟨fun l among => ?_, fun l absent => ?_, fun move mem => ?_⟩
  · by_cases before : l.IsAmong made
    · obtain ⟨v, found, holds⟩ := h.held l before
      refine ⟨v, ?_, holds⟩
      rw [Cells.find?_create]
      split
      next same => rw [same, found, Option.getD_some]
      next => exact found
    · have same : label.Same l := (Label.isAmong_concat.mp among).resolve_left before
      refine ⟨first, ?_, by rw [movesOf_eq_nil h.known before, start]⟩
      have key := Label.key_eq_iff.mpr same
      rw [Cells.find?_create, if_pos key, key, h.absent l before, Option.getD_none]
  · obtain ⟨before, other⟩ := not_or.mp (mt Label.isAmong_concat.mpr absent)
    rw [Cells.find?_create, if_neg (mt Label.key_eq_iff.mp other), h.absent l before]
  · exact Label.isAmong_concat.mpr (.inl (h.known move mem))

private theorem set (h : Show value cells made moved) (there : label ∈ made) {m : M} {w : V}
    (next : value (movesOf label moved ++ [m]) = some w) :
    Show value (cells.set label.key w) made (moved ++ [(label, m)]) := by
  have among : label.IsAmong made := ⟨label, there, .refl label⟩
  refine ⟨fun l made => ?_, fun l absent => ?_, fun move mem => ?_⟩
  · obtain ⟨v, found, holds⟩ := h.held l made
    rw [Cells.find?_set, movesOf_concat]
    by_cases same : label.Same l
    · refine ⟨w, ?_, ?_⟩
      · rw [if_pos (Label.key_eq_iff.mpr same), Label.key_eq_iff.mpr same, found, Option.map_some]
      · rw [if_pos same, ← movesOf_congr same, next]
    · refine ⟨v, ?_, ?_⟩
      · rw [if_neg (mt Label.key_eq_iff.mp same), found]
      · rw [if_neg same, List.append_nil, holds]
  · have other : ¬ label.Same l := fun same => absent (among.congr same)
    rw [Cells.find?_set, if_neg (mt Label.key_eq_iff.mp other), h.absent l absent]
  · rcases List.mem_append.mp mem with mem | mem
    · exact h.known move mem
    · obtain rfl := List.mem_singleton.mp mem
      exact among

end Show

private theorem Store.incrementGiven_ok {s s' : Store} {key : String} {delta : Json}
    (ok : s.incrementGiven key delta = .ok s') :
    ∃ n, delta.toNumber? = some n ∧ n.lt (.integer 0) = false ∧
      ∀ v, s.counters.find? key = some v →
        ∃ w, v.add? n = some w ∧ s' = { s with counters := s.counters.set key w } := by
  rw [incrementGiven] at ok
  split at ok
  next n number =>
    refine ⟨n, number, ?_⟩
    rw [increment] at ok
    split at ok
    · cases ok
    next whole =>
      refine ⟨Bool.eq_false_iff.mpr whole, fun v found => ?_⟩
      rw [found] at ok
      dsimp only at ok
      split at ok
      next w added => exact ⟨w, added, (Except.ok.inj ok).symm⟩
      · cases ok
  · cases ok

/-- A session and its history agree. -/
structure Agree (s : Session) (h : History) : Prop where
  counters : s.counters = h.counters.map Label.key
  gauges : s.gauges = h.gauges.map Label.key
  counts : Show Number.sum? s.store.counters h.counters h.added
  levels : Show (fun values => some (latest values)) s.store.gauges h.gauges h.updated

namespace Agree

variable {s : Session} {h : History}

private theorem increment (agree : Agree s h) (place : Nat) (delta : Json) :
    Agree (s.use (.increment place delta)).2
      (h.record (.increment place delta) (s.use (.increment place delta)).1) := by
  rw [Session.use]
  cases there : s.counters[place]? with
  | none => exact agree
  | some key =>
    dsimp only
    cases outcome : s.store.incrementGiven key delta with
    | error why => exact agree
    | ok store =>
      rw [agree.counters, List.getElem?_map, Option.map_eq_some_iff] at there
      obtain ⟨label, there, rfl⟩ := there
      have mem := List.mem_of_getElem? there
      obtain ⟨n, number, -, moves⟩ := Store.incrementGiven_ok outcome
      obtain ⟨v, found, holds⟩ := agree.counts.held label ⟨label, mem, .refl label⟩
      obtain ⟨w, added, rfl⟩ := moves v found
      simp only [History.record, there, number]
      refine ⟨agree.counters, agree.gauges, agree.counts.set mem ?_, agree.levels⟩
      rw [Number.sum?_concat, holds, Option.bind_some, added]

private theorem update (agree : Agree s h) (place : Nat) (amount : Json) :
    Agree (s.use (.update place amount)).2
      (h.record (.update place amount) (s.use (.update place amount)).1) := by
  rw [Session.use]
  cases there : s.gauges[place]? with
  | none => exact agree
  | some key =>
    rw [agree.gauges, List.getElem?_map, Option.map_eq_some_iff] at there
    obtain ⟨label, there, rfl⟩ := there
    simp only [History.record, there]
    refine ⟨agree.counters, agree.gauges, agree.counts,
      agree.levels.set (List.mem_of_getElem? there) ?_⟩
    simp [latest]

private theorem use (agree : Agree s h) (use : Use) :
    Agree (s.use use).2 (h.record use (s.use use).1) := by
  cases use with
  | makeCounter label =>
    refine ⟨?_, agree.gauges, agree.counts.create label rfl, agree.levels⟩
    simp only [Session.use, History.record, List.map_append, agree.counters]
    rfl
  | makeGauge label =>
    refine ⟨agree.counters, ?_, agree.counts, agree.levels.create label rfl⟩
    simp only [Session.use, History.record, List.map_append, agree.gauges]
    rfl
  | increment place delta => exact agree.increment place delta
  | update place amount => exact agree.update place amount
  | readCounter name query => exact agree
  | readGauge name query => exact agree

private theorem run (agree : Agree s h) (uses : List Use) :
    Agree (runUses s h uses).1 (runUses s h uses).2 := by
  induction uses generalizing s h with
  | nil => exact agree
  | cons use rest ih => exact ih (agree.use use)

end Agree

private theorem agree_new : Agree {} {} := ⟨rfl, rfl, .empty, .empty⟩

/-! ### Counters and gauges apart -/

def Use.kind : Use → InstrumentKind
  | .makeCounter _ | .increment .. | .readCounter .. => .counter
  | .makeGauge _ | .update .. | .readGauge .. => .gauge

def countersOf (run : Session × History) :
    Cells Number × List String × List Label × List (Label × Number) :=
  (run.1.store.counters, run.1.counters, run.2.counters, run.2.added)

def gaugesOf (run : Session × History) :
    Cells Json × List String × List Label × List (Label × Json) :=
  (run.1.store.gauges, run.1.gauges, run.2.gauges, run.2.updated)

/-- A view that uses of one kind alone decide. -/
structure Splits {α : Type} (view : Session × History → α) (kind : InstrumentKind) : Prop where
  other : ∀ (s : Session) (h : History) (use : Use), use.kind ≠ kind →
    view ((s.use use).2, h.record use (s.use use).1) = view (s, h)
  own : ∀ (s s' : Session) (h h' : History) (use : Use), use.kind = kind →
    view (s, h) = view (s', h') →
    view ((s.use use).2, h.record use (s.use use).1) =
      view ((s'.use use).2, h'.record use (s'.use use).1)

private theorem Splits.run {α : Type} {view : Session × History → α} {kind : InstrumentKind}
    (splits : Splits view kind) (uses : List Use) {s s' : Session} {h h' : History}
    (alike : view (s, h) = view (s', h')) :
    view (runUses s h uses) = view (runUses s' h' (uses.filter (·.kind = kind))) := by
  induction uses generalizing s s' h h' with
  | nil => exact alike
  | cons use rest ih =>
    by_cases own : use.kind = kind
    · rw [List.filter_cons_of_pos (by simpa using own)]
      exact ih (splits.own s s' h h' use own alike)
    · rw [List.filter_cons_of_neg (by simpa using own)]
      exact ih ((splits.other s h use own).trans alike)

private theorem Store.incrementGiven_split (counters : Cells Number) (gauges : Cells Json)
    (key : String)
    (delta : Json) :
    ({ counters, gauges } : Store).incrementGiven key delta =
      (({ counters } : Store).incrementGiven key delta).map fun s => { s with gauges } := by
  rw [incrementGiven, incrementGiven]
  cases delta.toNumber? with
  | none => rfl
  | some n =>
    dsimp only
    rw [increment, increment]
    split
    · rfl
    · cases counters.find? key with
      | none => rfl
      | some v =>
        dsimp only
        cases v.add? n <;> rfl

private theorem splits_counters : Splits countersOf .counter where
  other s h use gauge := by
    cases use with
    | makeGauge label => rfl
    | update place amount =>
      rw [Session.use]
      cases s.gauges[place]? with
      | none => rfl
      | some key =>
        cases there : h.gauges[place]? <;> simp [History.record, there, countersOf, Store.update]
    | readGauge name query => rfl
    | makeCounter | increment | readCounter => cases gauge rfl
  own s s' h h' use counter alike := by
    obtain ⟨⟨cells, gauges⟩, keys, _⟩ := s
    obtain ⟨⟨cells', gauges'⟩, keys', _⟩ := s'
    obtain ⟨rfl, rfl, labels, added⟩ : cells = cells' ∧ keys = keys' ∧ h.counters = h'.counters ∧
      h.added = h'.added := by simpa [countersOf] using alike
    cases use with
    | makeCounter label =>
      simp [countersOf, Session.use, History.record, Store.createCounter, labels, added]
    | increment place delta =>
      rw [Session.use, Session.use]
      dsimp only
      cases keys[place]? with
      | none => exact alike
      | some key =>
        dsimp only
        rw [Store.incrementGiven_split, Store.incrementGiven_split cells gauges']
        cases Store.incrementGiven key delta { counters := cells } with
        | error why => exact alike
        | ok store =>
          simp only [History.record, labels, added, countersOf, Except.map]
          cases h'.counters[place]? <;> cases delta.toNumber? <;> simp [added, labels]
    | readCounter name query => exact alike
    | makeGauge | update | readGauge => cases counter

private theorem splits_gauges : Splits gaugesOf .gauge where
  other s h use counter := by
    obtain ⟨⟨cells, gauges⟩, keys, _⟩ := s
    cases use with
    | makeCounter label => rfl
    | increment place delta =>
      rw [Session.use]
      dsimp only
      cases keys[place]? with
      | none => rfl
      | some key =>
        dsimp only
        rw [Store.incrementGiven_split]
        cases Store.incrementGiven key delta { counters := cells } with
        | error why => rfl
        | ok store =>
          simp only [History.record, gaugesOf, Except.map]
          cases h.counters[place]? <;> cases delta.toNumber? <;> rfl
    | readCounter name query => rfl
    | makeGauge | update | readGauge => cases counter rfl
  own s s' h h' use gauge alike := by
    obtain ⟨⟨counters, cells⟩, _, keys⟩ := s
    obtain ⟨⟨counters', cells'⟩, _, keys'⟩ := s'
    obtain ⟨rfl, rfl, labels, updated⟩ : cells = cells' ∧ keys = keys' ∧ h.gauges = h'.gauges ∧
      h.updated = h'.updated := by simpa [gaugesOf] using alike
    cases use with
    | makeGauge label =>
      simp [gaugesOf, Session.use, History.record, Store.createGauge, labels, updated]
    | update place amount =>
      rw [Session.use, Session.use]
      dsimp only
      cases keys[place]? with
      | none => exact alike
      | some key =>
        simp only [History.record, labels, gaugesOf, Store.update]
        cases h'.gauges[place]? <;> simp [updated, labels]
    | readGauge name query => exact alike
    | makeCounter | increment | readCounter => cases gauge

/-! ### What is shown -/

section Shown

variable {s : Session} {h : History} (agree : Agree s h) {l : Label} {query : TagQuery}
  (asked : query.toTags.Perm (textTags l.tags))

include asked in
private theorem key_asked : flatten l.name query.toTags = l.key := by
  refine (flatten_congr ?_ asked.symm l.name).symm
  rw [map_fst_textTags]
  exact l.distinct

include agree asked

private theorem Agree.counter_made (made : l.IsAmong h.counters) :
    Number.sum? (movesOf l h.added) = some (s.store.counter l.name query) := by
  obtain ⟨v, found, holds⟩ := agree.counts.held l made
  rw [holds, Store.counter, key_asked asked, found, Option.getD_some]

private theorem Agree.counter_absent (absent : ¬ l.IsAmong h.counters) :
    s.store.counter l.name query = .integer (-1) := by
  rw [Store.counter, key_asked asked, agree.counts.absent l absent, Option.getD_none]

private theorem Agree.gauge_made (made : l.IsAmong h.gauges) :
    s.store.gauge l.name query = latest (movesOf l h.updated) := by
  obtain ⟨v, found, holds⟩ := agree.levels.held l made
  rw [Store.gauge, key_asked asked, found, Option.getD_some, Option.some.inj holds]

private theorem Agree.gauge_absent (absent : ¬ l.IsAmong h.gauges) :
    s.store.gauge l.name query = .integer (-1) := by
  rw [Store.gauge, key_asked asked, agree.levels.absent l absent, Option.getD_none]

end Shown

private theorem Session.use_refused {s : Session} {use : Use} {why : Refusal}
    (refused : (s.use use).1 = .refused why) : (s.use use).2 = s := by
  cases use with
  | increment place delta =>
    rw [Session.use] at refused ⊢
    cases there : s.counters[place]? with
    | none => rfl
    | some key =>
      rw [there] at refused
      dsimp only at refused ⊢
      cases outcome : s.store.incrementGiven key delta with
      | ok store => rw [outcome] at refused; cases refused
      | error why => rfl
  | update place amount =>
    rw [Session.use] at refused ⊢
    cases there : s.gauges[place]? with
    | none => rfl
    | some key => rw [there] at refused; cases refused
  | makeCounter | makeGauge => cases refused
  | readCounter | readGauge => rfl

private theorem Session.use_negative {s : Session} {place : Nat} {delta : Json} {n : Number}
    (there : place < s.counters.length) (number : delta.toNumber? = some n)
    (negative : n.lt (.integer 0) = true) :
    (s.use (.increment place delta)).1 = .refused .negative := by
  rw [Session.use, List.getElem?_eq_getElem there]
  simp [Store.incrementGiven, number, Store.increment, negative]

/-- After any uses of a new store, a counter shows the sum of what was added through the counters of
its name and tags, and a gauge what was last set; of instruments that were never made, minus one is
shown. What is refused changes nothing, negative amounts are, and what there is of counters and of
gauges is what the uses of that kind alone would have left. -/
theorem shown_of_history (uses : List Use) :
    let s := (runUses {} {} uses).1
    let h := (runUses {} {} uses).2
    (∀ (l : Label) (query : TagQuery), query.toTags.Perm (textTags l.tags) →
      (¬ l.IsAmong h.counters → s.store.counter l.name query = .integer (-1)) ∧
      (l.IsAmong h.counters →
        Number.sum? (movesOf l h.added) = some (s.store.counter l.name query) ∧
        ∀ whole : List Int, (movesOf l h.added).map Number.toInt? = whole.map some →
          s.store.counter l.name query = .integer whole.sum) ∧
      (¬ l.IsAmong h.gauges → s.store.gauge l.name query = .integer (-1)) ∧
      (l.IsAmong h.gauges → s.store.gauge l.name query = latest (movesOf l h.updated))) ∧
    (∀ use why, (s.use use).1 = .refused why → (s.use use).2 = s) ∧
    (∀ place delta n, place < h.counters.length → delta.toNumber? = some n →
      n.lt (.integer 0) = true → (s.use (.increment place delta)).1 = .refused .negative) ∧
    countersOf (s, h) = countersOf (runUses {} {} (uses.filter (·.kind = .counter))) ∧
    gaugesOf (s, h) = gaugesOf (runUses {} {} (uses.filter (·.kind = .gauge))) := by
  intro s h
  have agree : Agree s h := agree_new.run uses
  refine ⟨fun l query asked => ⟨agree.counter_absent asked, fun made => ?_,
    agree.gauge_absent asked, agree.gauge_made asked⟩, fun _ _ => Session.use_refused,
    fun place delta n there => Session.use_negative ?_, splits_counters.run uses rfl,
    splits_gauges.run uses rfl⟩
  · have sum := agree.counter_made asked made
    refine ⟨sum, fun whole same => ?_⟩
    rw [Number.sum?_of_whole same] at sum
    exact (Option.some.inj sum).symm
  · rwa [agree.counters, List.length_map]

def byResult : Label where
  name := "requests"
  tags := [("result", "ok"), ("path", "/")]
  distinct := by decide
  undotted := by decide
  clear := by decide

def byPath : Label where
  name := "requests"
  tags := [("path", "/"), ("result", "ok")]
  distinct := by decide
  undotted := by decide
  clear := by decide

/-- Two counters of one name and the same tags, and a gauge of them too. -/
def shared : List Use :=
  [.makeCounter byResult, .makeCounter byPath, .makeGauge byPath, .increment 0 (.integer 3),
    .increment 1 (.integer 4), .increment 1 (.integer (-2)), .update 0 (.integer 5)]

theorem shared_counter_shown :
    (runUses {} {} shared).1.store.counter "requests" (.tags (textTags byPath.tags)) = .integer 7 ∧
      (runUses {} {} shared).1.store.gauge "requests" (.tags (textTags byResult.tags)) =
        .integer 5 ∧
      ((runUses {} {} shared).1.use (.increment 0 (.integer (-1)))).1 = .refused .negative := by
  obtain ⟨shown, -, refused, -⟩ := shown_of_history shared
  have counters : (runUses {} {} shared).2.counters = [byResult, byPath] := rfl
  have gauges : (runUses {} {} shared).2.gauges = [byPath] := rfl
  have added : (movesOf byPath (runUses {} {} shared).2.added).map Number.toInt? =
      [3, 4].map some := by decide +kernel
  have updated : movesOf byResult (runUses {} {} shared).2.updated = [.integer 5] := rfl
  obtain ⟨-, counter, -, -⟩ := shown byPath (.tags (textTags byPath.tags)) .rfl
  obtain ⟨-, -, -, gauge⟩ := shown byResult (.tags (textTags byResult.tags)) .rfl
  refine ⟨?_, ?_, refused 0 (.integer (-1)) (.integer (-1)) ?_ rfl (by decide +kernel)⟩
  · exact (counter ⟨byPath, by simp [counters], .refl byPath⟩).2 [3, 4] added
  · rw [← show byResult.name = "requests" from rfl,
      gauge ⟨byPath, by simp [gauges], by decide⟩, updated]
    rfl
  · simp [counters]

end Metrics

end Tracing
