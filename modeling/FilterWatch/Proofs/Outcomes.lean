import FilterWatch.Trace
import Mathlib.Data.List.Forall2

/-! What the success of a sequence of steps says about each step. -/

namespace FilterWatch.Proofs.Outcomes

theorem ok_bind (value : α) (next : α → Except ε β) : (Except.ok value >>= next) = next value := rfl

theorem error_bind (error : ε) (next : α → Except ε β) : (Except.error error >>= next) = .error error := rfl

theorem bind_eq_ok {first : Except ε α} {next : α → Except ε β} {result : β} :
    (first >>= next) = .ok result ↔ ∃ value, first = .ok value ∧ next value = .ok result := by
  cases first <;> simp [bind, Except.bind]

theorem bind_eq_error {first : Except ε α} {next : α → Except ε β} {error : ε} :
    (first >>= next) = .error error ↔ first = .error error ∨ ∃ value, first = .ok value ∧ next value = .error error := by
  cases first <;> simp [bind, Except.bind]

theorem map_eq_ok {first : Except ε α} {f : α → β} {result : β} :
    first.map f = .ok result ↔ ∃ value, first = .ok value ∧ f value = result := by
  cases first <;> simp [Except.map]

theorem map_eq_error {first : Except ε α} {f : α → β} {error : ε} : first.map f = .error error ↔ first = .error error := by
  cases first <;> simp [Except.map]

theorem map_eq_map {f : α → γ} {first second : Except ε α} (same : first.map f = second.map f) :
    (∃ error, first = .error error ∧ second = .error error) ∨
      ∃ value other, first = .ok value ∧ second = .ok other ∧ f value = f other := by
  cases first <;> cases second <;> simp_all [Except.map]

theorem mapError_ok (f : ε → δ) (value : α) : (Except.ok value : Except ε α).mapError f = .ok value := rfl

theorem mapError_error (f : ε → δ) (error : ε) :
    (Except.error error : Except ε α).mapError f = .error (f error) := rfl

theorem mapError_eq_ok {outcome : Except ε α} {f : ε → δ} {value : α} :
    outcome.mapError f = .ok value ↔ outcome = .ok value := by
  cases outcome <;> simp [mapError_ok, mapError_error]

theorem mapError_eq_error {outcome : Except ε α} {f : ε → δ} {error : δ} :
    outcome.mapError f = .error error ↔ ∃ cause, outcome = .error cause ∧ f cause = error := by
  cases outcome <;> simp [mapError_ok, mapError_error]

theorem mapM_congr {f g : α → Except ε β} {items : List α} (each : ∀ item ∈ items, f item = g item) :
    items.mapM f = items.mapM g := by
  induction items with
  | nil => rfl
  | cons item rest ih =>
    rw [List.mapM_cons, List.mapM_cons, each item (by simp), ih fun other member => each other (by simp [member])]

theorem mapM_of_ok {f : α → Except ε β} {g : α → β} {items : List α}
    (each : ∀ item ∈ items, f item = .ok (g item)) : items.mapM f = .ok (items.map g) := by
  induction items with
  | nil => rfl
  | cons item rest ih =>
    have first := each item (by simp)
    have others := ih fun other member => each other (by simp [member])
    simp only [List.mapM_cons, first, others, List.map_cons]
    rfl

/-- Two ways to work on items that give the same of each give the same of all. -/
theorem mapM_agree {f : α → Except ε β} {g : α → Except δ β} {items : List α}
    (each : ∀ item ∈ items, ∃ result, f item = .ok result ∧ g item = .ok result) :
    ∃ results, items.mapM f = .ok results ∧ items.mapM g = .ok results := by
  induction items with
  | nil => exact ⟨[], rfl, rfl⟩
  | cons item rest ih =>
    obtain ⟨result, first, same⟩ := each item (by simp)
    obtain ⟨results, others, rest⟩ := ih fun other member => each other (by simp [member])
    refine ⟨result :: results, ?_, ?_⟩
    · rw [List.mapM_cons, first, others]
      rfl
    · rw [List.mapM_cons, same, rest]
      rfl

theorem mapM_total {f : α → Except ε β} {items : List α} (each : ∀ item ∈ items, ∃ result, f item = .ok result) :
    ∃ results, items.mapM f = .ok results := by
  obtain ⟨results, done, _⟩ := mapM_agree fun item member =>
    (each item member).imp fun _ done => And.intro done done
  exact ⟨results, done⟩

theorem mapM_eq_error {f : α → Except ε β} {items : List α} {error : ε} :
    items.mapM f = .error error ↔ ∃ before item after, items = before ++ item :: after ∧
      (∀ earlier ∈ before, ∃ result, f earlier = .ok result) ∧ f item = .error error := by
  induction items with
  | nil => simp [pure, Except.pure]
  | cons first rest ih =>
    rw [List.mapM_cons, bind_eq_error]
    constructor
    · rintro (failed | ⟨result, done, failed⟩)
      · exact ⟨[], first, rest, rfl, by simp, failed⟩
      · rcases bind_eq_error.mp failed with failed | ⟨_, _, failed⟩
        · obtain ⟨before, item, after, rfl, earlier, last⟩ := ih.mp failed
          exact ⟨first :: before, item, after, rfl, List.forall_mem_cons.mpr ⟨⟨result, done⟩, earlier⟩, last⟩
        · cases failed
    · rintro ⟨before, item, after, split, earlier, failed⟩
      cases before with
      | nil =>
        cases split
        exact .inl failed
      | cons other before =>
        cases split
        obtain ⟨result, done⟩ := earlier first (by simp)
        have remaining := ih.mpr ⟨before, item, after, rfl, fun other member => earlier other (by simp [member]), failed⟩
        exact .inr ⟨result, done, bind_eq_error.mpr (.inl remaining)⟩

/-- Where some step fails, the sequence does, by that step or by an earlier one. -/
theorem mapM_of_error (f : α → Except ε β) {item : α} {error : ε} (fails : f item = .error error)
    (before after : List α) : ∃ first ∈ before ++ [item], ∃ cause, f first = .error cause ∧
      (before ++ item :: after).mapM f = .error cause := by
  induction before with
  | nil => exact ⟨item, by simp, error, fails, by rw [List.nil_append, List.mapM_cons, fails]; rfl⟩
  | cons head before ih =>
    rw [List.cons_append, List.cons_append, List.mapM_cons]
    cases read : f head with
    | error cause => exact ⟨head, by simp, cause, read, rfl⟩
    | ok result =>
      obtain ⟨first, member, cause, failed, ended⟩ := ih
      exact ⟨first, List.mem_cons_of_mem _ member, cause, failed, by rw [ended]; rfl⟩

/-- Checks that stand between steps which cannot fail may as well stand before all of them. -/
theorem mapM_behind {check : α → Except ε γ} {f : α → Except ε β} {items : List α}
    (each : ∀ item ∈ items, ∃ result, f item = .ok result) :
    (items.mapM fun item => check item >>= fun _ => f item) = items.mapM check >>= fun _ => items.mapM f := by
  induction items with
  | nil => rfl
  | cons item rest ih =>
    obtain ⟨result, done⟩ := each item (by simp)
    have others := ih fun other member => each other (by simp [member])
    simp only [List.mapM_cons, others, done]
    cases check item with
    | error error => rfl
    | ok checked => cases rest.mapM check <;> rfl

/-- Items of which nothing comes may as well be left out. -/
theorem mapM_chosen (choose : α → Bool) {f : α → Except ε (List β)} {items : List α}
    (left : ∀ item ∈ items, choose item = false → f item = .ok []) :
    (items.mapM f).map List.flatten = ((items.filter choose).mapM f).map List.flatten := by
  induction items with
  | nil => rfl
  | cons item rest ih =>
    have others := ih fun other member => left other (by simp [member])
    cases chosen : choose item with
    | true =>
      rw [List.filter_cons_of_pos chosen, List.mapM_cons, List.mapM_cons]
      cases f item with
      | error error => rfl
      | ok first =>
        obtain ⟨error, failed, same⟩ | ⟨_, _, read, same, alike⟩ := map_eq_map others
        · rw [failed, same]
        · rw [read, same]
          exact congrArg (fun parts => Except.ok (first ++ parts)) alike
    | false =>
      rw [List.filter_cons_of_neg (by simp [chosen]), List.mapM_cons, left item (by simp) chosen, ← others]
      cases rest.mapM f <;> rfl

theorem foldlM_cons_of_ok {f : β → α → Except ε β} {item : α} {before after : β}
    (step : f before item = .ok after) (rest : List α) :
    (item :: rest).foldlM f before = rest.foldlM f after := by
  rw [List.foldlM_cons, step]
  rfl

theorem foldlM_map {step : β → α → Except ε β} {other : δ → γ → Except ε δ} {f : β → δ} {g : α → γ}
    (each : ∀ state item, other (f state) (g item) = (step state item).map f) (items : List α) (state : β) :
    (items.map g).foldlM other (f state) = (items.foldlM step state).map f := by
  induction items generalizing state with
  | nil => rfl
  | cons item rest ih =>
    rw [List.map_cons, List.foldlM_cons, List.foldlM_cons, each]
    cases step state item with
    | error error => rfl
    | ok next => exact ih next

theorem mapM_map_eq {f : α → Except ε β} {g : β → γ} (items : List α) :
    (items.mapM fun item => (f item).map g) = (items.mapM f).map (·.map g) := by
  induction items with
  | nil => rfl
  | cons item rest ih =>
    rw [List.mapM_cons, List.mapM_cons, ih]
    cases f item with
    | error error => rfl
    | ok first => cases rest.mapM f <;> rfl

/-- The results stand in the order of the items, one for each. -/
theorem mapM_eq_ok {f : α → Except ε β} {items : List α} {results : List β} :
    items.mapM f = .ok results ↔ List.Forall₂ (fun item result => f item = .ok result) items results := by
  induction items generalizing results with
  | nil =>
    constructor
    · rintro ⟨⟩
      exact .nil
    · rintro ⟨⟩
      rfl
  | cons item rest ih =>
    simp only [List.mapM_cons, bind_eq_ok, ih]
    constructor
    · rintro ⟨first, found, others, remaining, same⟩
      cases same
      exact .cons found remaining
    · rintro (_ | ⟨found, remaining⟩)
      exact ⟨_, found, _, remaining, rfl⟩

theorem mem_of_mapM {f : α → Except ε β} {items : List α} {results : List β}
    (done : items.mapM f = .ok results) {result : β} (member : result ∈ results) :
    ∃ item ∈ items, f item = .ok result := by
  rw [mapM_eq_ok] at done
  induction done with
  | nil => cases member
  | cons found _ ih =>
    rcases List.mem_cons.mp member with rfl | member
    · exact ⟨_, by simp, found⟩
    · obtain ⟨other, inside, yields⟩ := ih member
      exact ⟨other, by simp [inside], yields⟩

theorem exists_of_mapM {f : α → Except ε β} {items : List α} {results : List β}
    (done : items.mapM f = .ok results) {item : α} (member : item ∈ items) :
    ∃ result ∈ results, f item = .ok result := by
  rw [mapM_eq_ok] at done
  induction done with
  | nil => cases member
  | cons found _ ih =>
    rcases List.mem_cons.mp member with rfl | member
    · exact ⟨_, by simp, found⟩
    · obtain ⟨other, inside, yields⟩ := ih member
      exact ⟨other, by simp [inside], yields⟩

theorem map_of_mapM {f : α → Except ε β} {g : β → γ} {h : α → γ} {items : List α} {results : List β}
    (done : items.mapM f = .ok results) (keeps : ∀ item result, f item = .ok result → g result = h item) :
    results.map g = items.map h := by
  rw [mapM_eq_ok] at done
  induction done with
  | nil => rfl
  | cons found _ ih => rw [List.map_cons, List.map_cons, keeps _ _ found, ih]

end FilterWatch.Proofs.Outcomes
