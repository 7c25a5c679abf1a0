import Mathlib.Data.List.Forall2
import Mathlib.Data.List.Flatten
import Tabula.Command.Edit
/-! # Borrowing the first match

    `borrowSome act xs` hands the first item of `xs` for which `act` has a result to the
    change and puts back what the change made of it.  What the edits prove about lookups
    after a change rests on three facts about it:

    * `borrowSome_forall₂`: item by item, the new list is the old one, but for one item
      that is what the change made of the old one;
    * `borrowSome_eq_self`: a change that hands its item back as it was leaves the list;
    * `borrowSome_append_cons`: the borrowed item is the first with a result;
    * `find?_borrowFirst`: a lookup by key after a change that keeps keys finds what the
      change made of the item found before, or that same item. -/

namespace Tabula

variable {α β : Type}

theorem borrowSome_cons (act : α → Option (β × α)) (x : α) (xs : List α) :
    borrowSome act (x :: xs) = match act x with
      | some (b, x') => some (b, x' :: xs)
      | none => (borrowSome act xs).map fun (b, xs') => (b, x :: xs') := rfl

/-- A borrow fails exactly when no item has a result. -/
theorem borrowSome_eq_none {act : α → Option (β × α)} :
    ∀ {xs : List α}, borrowSome act xs = none ↔ ∀ x ∈ xs, act x = none
  | [] => by simp [borrowSome]
  | x :: xs => by
      rw [borrowSome_cons, List.forall_mem_cons]
      cases hx : act x with
      | some p => simp
      | none =>
          have ih : borrowSome act xs = none ↔ ∀ x ∈ xs, act x = none := borrowSome_eq_none
          simp [ih]

/-- **One item changes**: after a borrow, each item is the old one or, for the borrowed
    one, what the change made of it. -/
theorem borrowSome_forall₂ {act : α → Option (β × α)} {b : β} :
    ∀ {xs ys : List α}, borrowSome act xs = some (b, ys) →
      List.Forall₂ (fun x y => y = x ∨ act x = some (b, y)) xs ys
  | [], _, h => nomatch h
  | x :: xs, ys, h => by
      rw [borrowSome_cons] at h
      cases hx : act x with
      | some p =>
          obtain ⟨b', x'⟩ := p
          rw [hx] at h
          obtain ⟨rfl, rfl⟩ := Prod.mk.inj (Option.some.inj h)
          exact .cons (.inr hx) (List.forall₂_same.2 fun _ _ => .inl rfl)
      | none =>
          rw [hx] at h
          obtain ⟨⟨b', ys'⟩, hys, heq⟩ := Option.map_eq_some_iff.1 h
          obtain ⟨rfl, rfl⟩ := Prod.mk.inj heq
          exact .cons (.inl rfl) (borrowSome_forall₂ hys)

/-- **Where the borrow happened**: the list splits into the items before, which have no
    result, the borrowed item, and the items after; only the borrowed one is replaced. -/
theorem borrowSome_eq_some {act : α → Option (β × α)} {b : β} :
    ∀ {xs ys : List α}, borrowSome act xs = some (b, ys) →
      ∃ pre x post y, (∀ z ∈ pre, act z = none) ∧ act x = some (b, y) ∧
        xs = pre ++ x :: post ∧ ys = pre ++ y :: post
  | [], _, h => nomatch h
  | x :: xs, ys, h => by
      rw [borrowSome_cons] at h
      cases hx : act x with
      | some p =>
          obtain ⟨b', x'⟩ := p
          rw [hx] at h
          obtain ⟨rfl, rfl⟩ := Prod.mk.inj (Option.some.inj h)
          exact ⟨[], x, xs, x', by simp, hx, rfl, rfl⟩
      | none =>
          rw [hx] at h
          obtain ⟨⟨b', ys'⟩, hys, heq⟩ := Option.map_eq_some_iff.1 h
          obtain ⟨rfl, rfl⟩ := Prod.mk.inj heq
          obtain ⟨pre, z, post, z', hpre, hz, rfl, rfl⟩ := borrowSome_eq_some hys
          refine ⟨x :: pre, z, post, z', ?_, hz, rfl, rfl⟩
          intro y hy
          rcases List.mem_cons.1 hy with rfl | hy
          · exact hx
          · exact hpre y hy

/-- **Which item is borrowed**: the first item with a result, whatever follows it. -/
theorem borrowSome_append_cons {act : α → Option (β × α)} {pre post : List α} {x y : α} {b : β}
    (hpre : ∀ z ∈ pre, act z = none) (hx : act x = some (b, y)) :
    borrowSome act (pre ++ x :: post) = some (b, pre ++ y :: post) := by
  induction pre with
  | nil => rw [List.nil_append, borrowSome_cons, hx]; rfl
  | cons z pre ih =>
    have hrest : ∀ z' ∈ pre, act z' = none := fun z' hz' => hpre z' (List.mem_cons_of_mem _ hz')
    rw [List.cons_append, borrowSome_cons, hpre z List.mem_cons_self, ih hrest]
    rfl

/-- A change that hands its item back as it was leaves the list as it was. -/
theorem borrowSome_eq_self {act : α → Option (β × α)} {b : β} {xs ys : List α}
    (h : borrowSome act xs = some (b, ys)) (hkeep : ∀ x y, act x = some (b, y) → y = x) :
    ys = xs := by
  have hsame : List.Forall₂ (· = ·) xs ys :=
    (borrowSome_forall₂ h).imp fun x y hxy => (hxy.elim id (hkeep x y)).symm
  rw [List.forall₂_eq_eq_eq] at hsame
  exact hsame.symm

/-- A view that every related pair agrees on is the same on both lists. -/
theorem map_eq_of_forall₂ {R : α → α → Prop} {γ : Type} {g : α → γ}
    (hg : ∀ x y, R x y → g y = g x) :
    ∀ {xs ys : List α}, List.Forall₂ R xs ys → ys.map g = xs.map g
  | [], [], .nil => rfl
  | _ :: _, _ :: _, .cons hxy hrest => by
      rw [List.map_cons, List.map_cons, hg _ _ hxy, map_eq_of_forall₂ hg hrest]

/-- A search that related items answer alike finds related items in related lists. -/
theorem find?_of_forall₂ {R : α → α → Prop} {p : α → Bool} (hp : ∀ x y, R x y → p y = p x) :
    ∀ {xs ys : List α}, List.Forall₂ R xs ys → ∀ {x}, xs.find? p = some x →
      ∃ y, ys.find? p = some y ∧ R x y
  | [], [], .nil, _, h => nomatch h
  | x :: _, y :: _, .cons hxy hrest, _, h => by
      by_cases hx : p x = true
      · rw [List.find?_cons_of_pos hx] at h
        cases h
        exact ⟨y, List.find?_cons_of_pos (by rw [hp x y hxy]; exact hx), hxy⟩
      · rw [List.find?_cons_of_neg hx] at h
        obtain ⟨y', hy', hr⟩ := find?_of_forall₂ hp hrest h
        exact ⟨y', by rw [List.find?_cons_of_neg (by rw [hp x y hxy]; exact hx)]; exact hy', hr⟩

/-- Erasing an item that a search passes over leaves what the search finds. -/
theorem find?_eraseIdx {p : α → Bool} :
    ∀ {xs : List α} {i : Nat} (hi : i < xs.length), p xs[i] = false →
      (xs.eraseIdx i).find? p = xs.find? p
  | x :: xs, 0, _, hx => by simp_all
  | x :: xs, i + 1, hi, hx => by
      have ih : (xs.eraseIdx i).find? p = xs.find? p :=
        find?_eraseIdx (Nat.lt_of_succ_lt_succ hi) hx
      simp only [List.eraseIdx_cons_succ, List.find?_cons, ih]

/-- Each item of the second list is related to some item of the first. -/
theorem exists_of_mem_forall₂ {R : α → α → Prop} :
    ∀ {xs ys : List α}, List.Forall₂ R xs ys → ∀ {y}, y ∈ ys → ∃ x ∈ xs, R x y
  | [], [], .nil, _, hy => nomatch hy
  | x :: _, _ :: _, .cons hxy hrest, _, hy => by
      rcases List.mem_cons.1 hy with rfl | hy
      · exact ⟨x, List.mem_cons_self, hxy⟩
      · obtain ⟨x', hx', hr⟩ := exists_of_mem_forall₂ hrest hy
        exact ⟨x', List.mem_cons_of_mem _ hx', hr⟩

/-- Every item after a borrow is an old item or what the change made of one. -/
theorem mem_of_borrowSome {act : α → Option (β × α)} {b : β} {xs ys : List α}
    (h : borrowSome act xs = some (b, ys)) {y : α} (hy : y ∈ ys) :
    y ∈ xs ∨ ∃ x ∈ xs, act x = some (b, y) := by
  obtain ⟨x, hx, hxy⟩ := exists_of_mem_forall₂ (borrowSome_forall₂ h) hy
  rcases hxy with rfl | hact
  · exact .inl hx
  · exact .inr ⟨x, hx, hact⟩

/-- **Where the first match was borrowed**: the items before it do not match, and only
    it is replaced, by what the change made of it. -/
theorem borrowFirst_eq_some {p : α → Bool} {f : α → β × α} {b : β} {xs ys : List α}
    (h : borrowFirst p f xs = some (b, ys)) :
    ∃ pre x post, (∀ z ∈ pre, p z = false) ∧ p x = true ∧ (f x).1 = b ∧
      xs = pre ++ x :: post ∧ ys = pre ++ (f x).2 :: post := by
  obtain ⟨pre, x, post, y, hpre, hx, rfl, rfl⟩ := borrowSome_eq_some h
  have hnone (z : α) (hz : z ∈ pre) : p z = false := by simpa using hpre z hz
  by_cases hpx : p x = true
  · have hfx : f x = (b, y) := by simpa [hpx] using hx
    exact ⟨pre, x, post, hnone, hpx, by rw [hfx], rfl, by rw [hfx]⟩
  · simp [hpx] at hx

/-- The borrowed item is the one a search for the first match finds. -/
theorem find?_of_borrowFirst {p : α → Bool} {f : α → β × α} {b : β} {xs ys : List α}
    (h : borrowFirst p f xs = some (b, ys)) : ∃ x, xs.find? p = some x ∧ (f x).1 = b := by
  obtain ⟨pre, x, post, hpre, hx, hb, rfl, -⟩ := borrowFirst_eq_some h
  have hnone : pre.find? p = none := List.find?_eq_none.2 fun z hz => by simp [hpre z hz]
  exact ⟨x, by simp [List.find?_append, hnone, hx], hb⟩

/-- A view of the items that the change keeps is kept by the borrow. -/
theorem map_borrowFirst {γ : Type} {p : α → Bool} {f : α → β × α} {g : α → γ} {b : β}
    {xs ys : List α} (hg : ∀ x, g (f x).2 = g x) (h : borrowFirst p f xs = some (b, ys)) :
    ys.map g = xs.map g := by
  obtain ⟨pre, x, post, -, -, -, rfl, rfl⟩ := borrowFirst_eq_some h
  simp [hg]

/-- Every item after a borrow is an old item or what the change made of one. -/
theorem mem_of_borrowFirst {p : α → Bool} {f : α → β × α} {b : β} {xs ys : List α}
    (h : borrowFirst p f xs = some (b, ys)) {y : α} (hy : y ∈ ys) :
    y ∈ xs ∨ ∃ x ∈ xs, y = (f x).2 := by
  obtain ⟨pre, x, post, -, -, -, rfl, rfl⟩ := borrowFirst_eq_some h
  simp only [List.mem_append, List.mem_cons] at hy
  rcases hy with hy | rfl | hy
  · exact .inl (List.mem_append_left _ hy)
  · exact .inr ⟨x, by simp, rfl⟩
  · exact .inl (by simp [hy])

/-- A change that drops part of a view of its item drops part of the joined view. -/
theorem flatMap_borrowFirst_sublist {γ : Type} {p : α → Bool} {f : α → β × α}
    {g : α → List γ} {b : β} {xs ys : List α} (hg : ∀ x, (g (f x).2).Sublist (g x))
    (h : borrowFirst p f xs = some (b, ys)) : (ys.flatMap g).Sublist (xs.flatMap g) := by
  obtain ⟨pre, x, post, -, -, -, rfl, rfl⟩ := borrowFirst_eq_some h
  simp only [List.flatMap_append, List.flatMap_cons]
  exact ((hg x).append_right _).append_left _

/-- A change that adds one entry to a view of its item adds it to the joined view. -/
theorem flatMap_borrowFirst_perm {γ : Type} {p : α → Bool} {f : α → β × α}
    {g : α → List γ} {b : β} {c : γ} {xs ys : List α} (hg : ∀ x, g (f x).2 = g x ++ [c])
    (h : borrowFirst p f xs = some (b, ys)) : (ys.flatMap g).Perm (c :: xs.flatMap g) := by
  obtain ⟨pre, x, post, -, -, -, rfl, rfl⟩ := borrowFirst_eq_some h
  have hmid : ((pre.flatMap g ++ g x) ++ c :: post.flatMap g).Perm _ := List.perm_middle
  simpa [List.flatMap_append, hg x] using hmid

/-- **Lookups after a borrow**: when the change keeps keys, the item found by a key is
    what the change made of the item found before, if that was the borrowed one, and the
    same item otherwise. -/
theorem find?_borrowFirst {key : α → Key} {k : Key} {f : α → β × α} {b : β}
    (hkey : ∀ x, key (f x).2 = key x) (k' : Key) :
    ∀ {xs ys : List α}, borrowFirst (fun x => key x == k) f xs = some (b, ys) →
      ys.find? (fun y => key y == k') =
        (xs.find? (fun x => key x == k')).map fun x => if k' = k then (f x).2 else x
  | [], _, h => nomatch h
  | x :: xs, ys, h => by
      unfold borrowFirst at h
      rw [borrowSome_cons] at h
      by_cases hx : key x = k
      · rw [if_pos (by simpa using hx)] at h
        obtain ⟨-, rfl⟩ := Prod.mk.inj (Option.some.inj h)
        by_cases hk : k' = k
        · subst hk
          simp [hkey, hx]
        · have hne : (key x == k') = false := by simpa [hx] using Ne.symm hk
          simp [hkey, hne, hk]
      · rw [if_neg (by simpa using hx)] at h
        obtain ⟨⟨b', ys'⟩, hys, heq⟩ := Option.map_eq_some_iff.1 h
        obtain ⟨-, rfl⟩ := Prod.mk.inj heq
        have ih := find?_borrowFirst hkey k' hys
        by_cases hk : key x = k'
        · have hne : k' ≠ k := fun h' => hx (hk.trans h')
          simp [hk, hne]
        · simp [hk, ih]

end Tabula
