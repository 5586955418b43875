import PromptCanvas.Proofs.Graph.Operation

set_option autoImplicit false

/-! # Fresh ids

The id of a new node is that of the first draw to come whose id was never used. The search for it looks at
finitely many draws, but it misses none: whatever id is still to be drawn is drawn within the bound. A number
with more digits than an id holds repeats the id of the number without its last digit, so that a draw far
away can be replaced by one nearer by, until it is near. -/

namespace PromptCanvas

namespace Draws

/-- The source after some draws. -/
def skip (draws : Draws) : Nat → Draws
  | 0 => draws
  | n + 1 => draws.next.2.skip n

/-- One of the draws to come; the next one is at place zero. -/
def nth (draws : Draws) (n : Nat) : String := (draws.skip n).next.1

theorem nth_of_given_eq_nil {draws : Draws} (h : draws.given = []) (n : Nat) :
    draws.nth n = numbered (draws.counted + n + 1) := by
  induction n generalizing draws with
  | zero => simp only [nth, skip, next, h, Nat.add_zero]
  | succ n ih =>
      have hnext : draws.next.2 = { given := [], counted := draws.counted + 1 } := by
        simp only [next, h]
      show draws.next.2.nth n = _
      rw [hnext, ih rfl, Nat.add_right_comm draws.counted 1 n, Nat.add_assoc draws.counted n 1]

theorem nth_counted (draws : Draws) (n : Nat) :
    draws.nth (draws.given.length + n) = numbered (draws.counted + n + 1) := by
  obtain ⟨given, counted⟩ := draws
  induction given with
  | nil =>
      rw [List.length_nil, Nat.zero_add]
      exact nth_of_given_eq_nil rfl n
  | cons text rest ih =>
      rw [List.length_cons, Nat.add_right_comm]
      exact ih

end Draws

namespace Graph

/-! ## Repeated ids -/

theorem pow_eleven : Nat.pow 16 11 = 17592186044416 := by decide

theorem pow_twelve : Nat.pow 16 12 = 281474976710656 := by decide

theorem twelve_le_length_toDigits {n : Nat} (h : Nat.pow 16 11 ≤ n) : 12 ≤ (Nat.toDigits 16 n).length := by
  rw [pow_eleven] at h
  by_contra hshort
  have hbelow := (@Nat.length_toDigits_le_iff 16 n 11 (by decide) (by decide)).1 (by omega)
  omega

theorem toList_numbered {n : Nat} (h : Nat.pow 16 11 ≤ n) :
    (Draws.numbered n).toList = Nat.toDigits 16 n ++ List.replicate 20 '0' := by
  unfold Draws.numbered Text.hexDigits
  rw [String.toList_ofList]
  simp only [Nat.sub_eq_zero_of_le (twelve_le_length_toDigits h), List.replicate_zero, List.nil_append]

/-- A number with as many digits as an id holds shows its first digits in the id. -/
theorem idOfDraw_numbered {n : Nat} (h : Nat.pow 16 11 ≤ n) :
    idOfDraw (Draws.numbered n) = String.ofList ("node-".toList ++ (Nat.toDigits 16 n).take 12) := by
  have hchars := toList_numbered h
  unfold idOfDraw
  rw [hchars, List.take_append_of_le_length (twelve_le_length_toDigits h)]

/-- A number with more digits repeats the id of the number without its last digit. -/
theorem idOfDraw_numbered_div {n : Nat} (h : Nat.pow 16 12 ≤ n) :
    idOfDraw (Draws.numbered (n / 16)) = idOfDraw (Draws.numbered n) := by
  rw [pow_twelve] at h
  have hdiv : Nat.pow 16 11 ≤ n / 16 := by
    rw [pow_eleven]
    omega
  have hlarge : Nat.pow 16 11 ≤ n := Nat.le_trans hdiv (Nat.div_le_self n 16)
  have hdigits : Nat.toDigits 16 n = Nat.toDigits 16 (n / 16) ++ Nat.toDigits 16 (n % 16) := by
    rw [Nat.toDigits_append_toDigits (by decide) (by omega) (Nat.mod_lt _ (by decide)), Nat.div_add_mod]
  rw [idOfDraw_numbered hdiv, idOfDraw_numbered hlarge, hdigits,
    List.take_append_of_le_length (twelve_le_length_toDigits hdiv)]

/-- Every number after one that was counted shows the id of a number not too far after it. -/
theorem exists_near_numbered {counted n : Nat} (h : counted < n) :
    ∃ m, counted < m ∧ m ≤ counted + (16 * counted + Nat.pow 16 12) ∧
      idOfDraw (Draws.numbered m) = idOfDraw (Draws.numbered n) := by
  induction n using Nat.strongRecOn with
  | ind n ih =>
      by_cases hnear : n ≤ counted + (16 * counted + Nat.pow 16 12)
      · exact ⟨n, h, hnear, rfl⟩
      · rw [pow_twelve] at ih hnear ⊢
        obtain ⟨m, hm, hnear', hsame⟩ := ih (n / 16) (by omega) (by omega)
        refine ⟨m, hm, hnear', hsame.trans (idOfDraw_numbered_div ?_)⟩
        rw [pow_twelve]
        omega

/-- Every id that is still to be drawn is drawn within the bound. -/
theorem exists_nth_lt_drawBound (draws : Draws) (n : Nat) :
    ∃ m, m < drawBound draws ∧ idOfDraw (draws.nth m) = idOfDraw (draws.nth n) := by
  unfold drawBound
  by_cases hgiven : n < draws.given.length
  · exact ⟨n, by omega, rfl⟩
  · obtain ⟨k, rfl⟩ := Nat.exists_eq_add_of_le (Nat.le_of_not_lt hgiven)
    obtain ⟨m, hm, hnear, hsame⟩ := @exists_near_numbered draws.counted (draws.counted + k + 1) (by omega)
    refine ⟨draws.given.length + (m - draws.counted - 1), by omega, ?_⟩
    rw [draws.nth_counted, draws.nth_counted,
      show draws.counted + (m - draws.counted - 1) + 1 = m by omega, hsame]

/-! ## The first unused id -/

variable {g : Graph} {draws rest : Draws} {id : NodeId}

/-- A draw to come is the first one whose id was never used. -/
def FirstUnused (g : Graph) (draws : Draws) (n : Nat) : Prop :=
  g.unused (idOfDraw (draws.nth n)) = true ∧ ∀ m < n, g.unused (idOfDraw (draws.nth m)) = false

theorem firstUnused_zero_iff : g.FirstUnused draws 0 ↔ g.unused (idOfDraw draws.next.1) = true :=
  and_iff_left fun _ hm => absurd hm (Nat.not_lt_zero _)

theorem firstUnused_succ_iff {n : Nat} :
    g.FirstUnused draws (n + 1) ↔
      g.unused (idOfDraw draws.next.1) = false ∧ g.FirstUnused draws.next.2 n := by
  constructor
  · rintro ⟨hunused, hfirst⟩
    exact ⟨hfirst 0 (Nat.succ_pos n), hunused, fun m hm => hfirst (m + 1) (Nat.succ_lt_succ hm)⟩
  · rintro ⟨hused, hunused, hfirst⟩
    refine ⟨hunused, fun m hm => ?_⟩
    cases m with
    | zero => exact hused
    | succ m => exact hfirst m (Nat.lt_of_succ_lt_succ hm)

theorem freshFrom_eq_some_iff {fuel : Nat} :
    g.freshFrom fuel draws = some (id, rest) ↔
      ∃ n, n < fuel ∧ g.FirstUnused draws n ∧ id = idOfDraw (draws.nth n) ∧ rest = draws.skip (n + 1) := by
  induction fuel generalizing draws with
  | zero => simp [freshFrom]
  | succ fuel ih =>
      simp only [freshFrom]
      split
      · next hunused =>
          rw [Option.some.injEq, Prod.mk.injEq]
          constructor
          · rintro ⟨rfl, rfl⟩
            exact ⟨0, Nat.succ_pos fuel, firstUnused_zero_iff.2 hunused, rfl, rfl⟩
          · rintro ⟨n, _, hfirst, rfl, rfl⟩
            cases n with
            | zero => exact ⟨rfl, rfl⟩
            | succ n => exact Bool.noConfusion (hunused.symm.trans (firstUnused_succ_iff.1 hfirst).1)
      · next hused =>
          rw [ih]
          constructor
          · rintro ⟨n, hlt, hfirst, rfl, rfl⟩
            exact ⟨n + 1, Nat.succ_lt_succ hlt,
              firstUnused_succ_iff.2 ⟨Bool.eq_false_iff.2 hused, hfirst⟩, rfl, rfl⟩
          · rintro ⟨n, hlt, hfirst, rfl, rfl⟩
            cases n with
            | zero => exact absurd (firstUnused_zero_iff.1 hfirst) hused
            | succ n => exact ⟨n, Nat.lt_of_succ_lt_succ hlt, (firstUnused_succ_iff.1 hfirst).2, rfl, rfl⟩

theorem FirstUnused.lt_drawBound {n : Nat} (h : g.FirstUnused draws n) : n < drawBound draws := by
  obtain ⟨m, hm, hsame⟩ := exists_nth_lt_drawBound draws n
  refine Nat.lt_of_le_of_lt (Nat.le_of_not_lt fun hlt => ?_) hm
  exact Bool.noConfusion (((congrArg g.unused hsame).trans h.1).symm.trans (h.2 m hlt))

theorem freshId?_eq_some_iff :
    g.freshId? = some (id, rest) ↔
      ∃ n, g.FirstUnused g.draws n ∧ id = idOfDraw (g.draws.nth n) ∧ rest = g.draws.skip (n + 1) := by
  unfold Graph.freshId?
  rw [freshFrom_eq_some_iff]
  exact exists_congr fun n => and_iff_right_of_imp fun h => h.1.lt_drawBound

/-- As soon as one of the draws to come has an unused id, one of them is the first. -/
theorem exists_firstUnused {n : Nat} (h : g.unused (idOfDraw (draws.nth n)) = true) :
    ∃ m, m ≤ n ∧ g.FirstUnused draws m := by
  induction n using Nat.strongRecOn with
  | ind n ih =>
      by_cases hfirst : ∃ m, m < n ∧ g.unused (idOfDraw (draws.nth m)) = true
      · obtain ⟨m, hm, hunused⟩ := hfirst
        obtain ⟨first, hle, hfirst⟩ := ih m hm hunused
        exact ⟨first, Nat.le_trans hle (Nat.le_of_lt hm), hfirst⟩
      · refine ⟨n, Nat.le_refl n, h, fun m hm => Bool.eq_false_iff.2 fun hunused => ?_⟩
        exact hfirst ⟨m, hm, hunused⟩

/-- The search ends with an id where the draws to come have an unused one, and only there. -/
theorem isSome_freshId?_iff :
    g.freshId?.isSome = true ↔ ∃ n, g.unused (idOfDraw (g.draws.nth n)) = true := by
  rw [Option.isSome_iff_exists]
  constructor
  · rintro ⟨⟨id, rest⟩, hfresh⟩
    obtain ⟨n, hfirst, _⟩ := freshId?_eq_some_iff.1 hfresh
    exact ⟨n, hfirst.1⟩
  · rintro ⟨n, hunused⟩
    obtain ⟨first, _, hfirst⟩ := exists_firstUnused hunused
    exact ⟨_, freshId?_eq_some_iff.2 ⟨first, hfirst, rfl, rfl⟩⟩

theorem id_of_add {aspectRatio : String} {kind : Json} {parent : Option NodeId} {fields : Json.Fields}
    {node : Node} (h : (g.add aspectRatio kind parent fields).1 = .ok node) :
    ∃ n, g.FirstUnused g.draws n ∧ node.id = idOfDraw (g.draws.nth n) := by
  rcases g.add_cases aspectRatio kind parent fields with ⟨r, draws, heq⟩ |
    ⟨fresh, slug, found, edits, draws, hfresh, _, _, heq⟩
  · rw [heq] at h
    simp at h
  · rw [heq, Except.ok.injEq] at h
    obtain ⟨n, hfirst, hid, _⟩ := freshId?_eq_some_iff.1 hfresh
    refine ⟨n, hfirst, ?_⟩
    rw [← h, newcomer, Node.applyAll_id]
    exact hid

end Graph

end PromptCanvas
