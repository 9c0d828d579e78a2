import Mathlib.Data.List.Forall2

/-!
# Fallible computations and traversals

A loop that decodes the items of a list one by one and stops at the first
failure.  It succeeds exactly when every item decodes, its results are related
to the items position by position, and its failure is that of the first item
that does not decode.
-/

namespace Library

variable {α β ε : Type}

@[simp] theorem ok_bind (value : α) (next : α → Except ε β) :
    (Except.ok value >>= next) = next value := rfl

@[simp] theorem error_bind (failure : ε) (next : α → Except ε β) :
    ((Except.error failure : Except ε α) >>= next) = .error failure := rfl

@[simp] theorem pure_eq_ok (value : α) :
    (pure value : Except ε α) = .ok value := rfl

theorem bind_eq_ok_iff {first : Except ε α} {next : α → Except ε β}
    {result : β} :
    first >>= next = .ok result ↔
      ∃ value, first = .ok value ∧ next value = .ok result := by
  cases first <;> simp [bind, Except.bind]

theorem bind_eq_error_iff {first : Except ε α} {next : α → Except ε β}
    {failure : ε} :
    first >>= next = .error failure ↔
      first = .error failure ∨
        ∃ value, first = .ok value ∧ next value = .error failure := by
  cases first <;> simp [bind, Except.bind]

theorem mapM_eq_ok_iff {decode : α → Except ε β} {items : List α}
    {results : List β} :
    items.mapM decode = .ok results ↔
      List.Forall₂ (fun item result => decode item = .ok result)
        items results := by
  induction items generalizing results with
  | nil => simp [eq_comm]
  | cons item items induction =>
      simp only [List.mapM_cons, bind_eq_ok_iff, pure_eq_ok, Except.ok.injEq,
        induction]
      constructor
      · intro decoded
        obtain ⟨result, head, rest, tail, equality⟩ := decoded
        subst equality
        exact .cons head tail
      · intro related
        cases related with
        | cons head tail => exact ⟨_, head, _, tail, rfl⟩

theorem exists_mapM_eq_ok_iff {decode : α → Except ε β} {items : List α} :
    (∃ results, items.mapM decode = .ok results) ↔
      ∀ item ∈ items, ∃ result, decode item = .ok result := by
  simp only [mapM_eq_ok_iff]
  induction items with
  | nil => simp
  | cons item items induction =>
      rw [List.forall_mem_cons, ← induction]
      constructor
      · intro related
        obtain ⟨_, related⟩ := related
        cases related with
        | cons head tail => exact ⟨⟨_, head⟩, _, tail⟩
      · intro decoded
        obtain ⟨⟨result, head⟩, results, tail⟩ := decoded
        exact ⟨result :: results, .cons head tail⟩

/-- The first failing item decides the failure of the whole traversal. -/
theorem mapM_eq_error_iff {decode : α → Except ε β} {items : List α}
    {failure : ε} :
    items.mapM decode = .error failure ↔
      ∃ before item after results, items = before ++ item :: after ∧
        before.mapM decode = .ok results ∧ decode item = .error failure := by
  induction items with
  | nil => simp
  | cons first items induction =>
      simp only [List.mapM_cons, bind_eq_error_iff, induction]
      constructor
      · intro failed
        rcases failed with failing | ⟨result, head, tailFailed⟩
        · exact ⟨[], first, items, [], rfl, rfl, failing⟩
        · rcases tailFailed with
            ⟨before, item, after, results, rfl, decoded, failing⟩ | impossible
          · refine ⟨first :: before, item, after, result :: results, rfl, ?_,
              failing⟩
            apply mapM_eq_ok_iff.mpr
            exact .cons head (mapM_eq_ok_iff.mp decoded)
          · obtain ⟨rest, _, finished⟩ := impossible
            cases finished
      · intro failed
        obtain ⟨before, item, after, results, split, decoded, failing⟩ :=
          failed
        cases before with
        | nil =>
            obtain ⟨rfl, rfl⟩ := List.cons.inj split
            exact .inl failing
        | cons head before =>
            obtain ⟨rfl, rfl⟩ := List.cons.inj split
            cases mapM_eq_ok_iff.mp decoded with
            | cons headDecoded tailDecoded =>
                exact .inr ⟨_, headDecoded, .inl ⟨before, item, after, _, rfl,
                  mapM_eq_ok_iff.mpr tailDecoded, failing⟩⟩

/-- A loop that appends each decoded item to an accumulator is a traversal. -/
theorem foldlM_append_eq_mapM (decode : α → Except ε β)
    (done : List β) (items : List α) :
    items.foldlM (fun results item => do
        let result ← decode item
        return results ++ [result]) done =
      (done ++ ·) <$> items.mapM decode := by
  induction items generalizing done with
  | nil => simp [Functor.map, Except.map]
  | cons item items induction =>
      simp only [List.foldlM_cons, List.mapM_cons, bind_assoc, pure_bind,
        map_bind, map_pure]
      congr 1
      funext result
      rw [induction, map_eq_pure_bind]
      simp

theorem mapM_of_forall₂ {γ : Type} {decode : α → Except ε β}
    {represents : α → γ → Prop} {image : γ → β}
    (decodes : ∀ item value, represents item value →
      decode item = .ok (image value))
    {items : List α} {values : List γ}
    (related : List.Forall₂ represents items values) :
    items.mapM decode = .ok (values.map image) := by
  rw [mapM_eq_ok_iff, List.forall₂_map_right_iff]
  exact related.imp fun item value => decodes item value

end Library
