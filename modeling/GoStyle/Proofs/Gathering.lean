import Mathlib.Data.List.Basic
import Mathlib.Data.List.Forall2
import GoStyle.Lint.Rules.Names

/-!
# Gathering

The rule on names looks at the names of a declaration one after the other, and so at the
declarations of a file, up to the first fault. Both are `gather`: it has a fault if some item has
(`gather_fault_iff`), and otherwise everything that the items give (`mem_of_gather`), item after
item (`forall₂_of_gather`). What is gathered from lists that are gathered is gathered from all their
items (`gather_gather`).
-/

namespace GoStyle

section Gather

variable {α β ε : Type}

/-- What some items give, one after the other, up to the first fault. -/
def gather (check : α → Except ε (List β)) : List α → Except ε (List β)
  | [] => .ok []
  | a :: as =>
    match check a with
    | .error e => .error e
    | .ok found =>
      match gather check as with
      | .error e => .error e
      | .ok more => .ok (found ++ more)

variable {check : α → Except ε (List β)}

/-- Gathering has a fault exactly if an item has. -/
theorem gather_fault_iff : ∀ {as : List α},
    (∃ e, gather check as = .error e) ↔ ∃ a ∈ as, ∃ e, check a = .error e
  | [] => by simp [gather]
  | a :: as => by
    rw [gather]
    simp only [List.exists_mem_cons_iff]
    rw [← gather_fault_iff]
    cases check a with
    | error e => simp
    | ok found => cases gather check as <;> simp

/-- What is gathered is what the items give. -/
theorem mem_of_gather : ∀ {as : List α} {bs : List β}, gather check as = .ok bs → ∀ b,
    b ∈ bs ↔ ∃ a ∈ as, ∃ found, check a = .ok found ∧ b ∈ found
  | [], _, h, b => by
    cases h
    simp
  | a :: as, bs, h, b => by
    rw [gather] at h
    split at h
    · cases h
    · rename_i found hfound
      split at h
      · cases h
      · rename_i more hmore
        cases h
        simp only [List.mem_append, mem_of_gather hmore, List.exists_mem_cons_iff, hfound,
          Except.ok.injEq, exists_eq_left']

/-- What is gathered is what each item gives, put together. -/
theorem forall₂_of_gather : ∀ {as : List α} {bs : List β}, gather check as = .ok bs →
    ∃ given, List.Forall₂ (fun a found => check a = .ok found) as given ∧ bs = given.flatten
  | [], _, h => by
    cases h
    exact ⟨[], .nil, rfl⟩
  | a :: as, bs, h => by
    rw [gather] at h
    split at h
    · cases h
    · rename_i found hfound
      split at h
      · cases h
      · rename_i more hmore
        cases h
        obtain ⟨given, hgiven, rfl⟩ := forall₂_of_gather hmore
        exact ⟨found :: given, .cons hfound hgiven, rfl⟩

theorem gather_cons (check : α → Except ε (List β)) (a : α) (as : List α) :
    gather check (a :: as) =
      (check a).bind fun found => (gather check as).bind fun more => .ok (found ++ more) := by
  rw [gather]
  cases check a with
  | error e => rfl
  | ok found => cases gather check as <;> rfl

theorem gather_singleton (check : α → Except ε (List β)) (a : α) :
    gather check [a] = check a := by
  rw [gather_cons, gather]
  cases check a with
  | error e => rfl
  | ok found => exact congrArg Except.ok (List.append_nil found)

theorem gather_map {γ : Type} (check : α → Except ε (List β)) (f : γ → α) :
    ∀ cs : List γ, gather check (cs.map f) = gather (fun c => check (f c)) cs
  | [] => rfl
  | c :: cs => by rw [List.map_cons, gather_cons, gather_cons, gather_map check f cs]

theorem gather_append (check : α → Except ε (List β)) (as' : List α) : ∀ as : List α,
    gather check (as ++ as') =
      (gather check as).bind fun found => (gather check as').bind fun more => .ok (found ++ more)
  | [] => by
    rw [List.nil_append, gather]
    cases gather check as' <;> rfl
  | a :: as => by
    rw [List.cons_append, gather_cons, gather_cons, gather_append check as' as]
    cases check a with
    | error e => rfl
    | ok first =>
      cases gather check as with
      | error e => rfl
      | ok found =>
        cases gather check as' with
        | error e => rfl
        | ok more => exact congrArg Except.ok (List.append_assoc first found more).symm

/-- Gathering from lists, each of which is gathered, is gathering from all their items. -/
theorem gather_gather {γ : Type} (check : α → Except ε (List β)) (f : γ → List α) :
    ∀ cs : List γ, gather (fun c => gather check (f c)) cs = gather check (cs.flatMap f)
  | [] => rfl
  | c :: cs => by rw [List.flatMap_cons, gather_append, gather_cons, gather_gather check f cs]

end Gather

/-- The names of a list are gathered. -/
theorem collectFaults_eq_gather (check : Ident → Except RuleFault (List Problem)) :
    ∀ ids : List Ident, collectFaults check ids = gather check ids
  | [] => rfl
  | id :: ids => by
    rw [collectFaults, gather, collectFaults_eq_gather check ids]
    cases check id with
    | error e => rfl
    | ok found => cases gather check ids <;> rfl

/-- The declarations of a file are gathered. -/
theorem FileContext.declsNameFaults_eq_gather (c : FileContext) :
    ∀ ds : List Decl, c.declsNameFaults ds = gather c.declNameFaults ds
  | [] => rfl
  | d :: ds => by
    rw [FileContext.declsNameFaults, gather, c.declsNameFaults_eq_gather ds]
    cases c.declNameFaults d with
    | error e => rfl
    | ok found => cases gather c.declNameFaults ds <;> rfl

end GoStyle
