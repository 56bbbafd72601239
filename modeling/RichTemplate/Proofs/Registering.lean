import RichTemplate.Proofs.Filling
import RichTemplate.Registry

/-!
# Registering

What is registered is sound, and a registry is told by what has been registered in it: the names in
the order of their first registrations, each with the binding of its last. This holds of every
registry that any operations come to, whichever of them failed, since seeding and merging register
entry by entry in a new registry and an operation that fails leaves what was there.
-/

namespace RichTemplate

def Registrable (x : Value × Entry) : Prop :=
  ∃ n b, x = (.str n, .binding b) ∧ isWord n = true ∧ b.problems = []

/-- Why an entry is refused: for its name, for what stands under it, or for the problems of its
binding. -/
inductive Refused : Value × Entry → RegistryError → Prop
  | badName {name : Value} {entry : Entry} (hname : ∀ n, name = .str n → isWord n = false) :
    Refused (name, entry) (.badName name)
  | notBinding {n : String} {given : Value} (hword : isWord n = true) :
    Refused (.str n, .other given) (.notBinding n given)
  | invalid {n : String} {b : Binding} (hword : isWord n = true) (hproblems : b.problems ≠ []) :
    Refused (.str n, .binding b) (.invalid n b.problems)

def FirstRefused (entries : Entries Entry) (e : RegistryError) : Prop :=
  ∃ before x after, entries = before ++ x :: after ∧ (∀ y ∈ before, Registrable y) ∧ Refused x e

def bindingOf? : Value × Entry → Option (String × Binding)
  | (.str n, .binding b) => some (n, b)
  | _ => none

def recorded (entries : Entries Entry) : List (String × Binding) :=
  entries.filterMap bindingOf?

theorem recorded_cons (x : Value × Entry) (entries : Entries Entry) :
    recorded (x :: entries) = recorded [x] ++ recorded entries :=
  List.filterMap_append (l := [x])

theorem recorded_map (bindings : List (String × Binding)) :
    recorded (bindings.map fun b => (.str b.1, .binding b.2)) = bindings := by
  rw [recorded, List.filterMap_map]
  exact List.filterMap_some

section Entries

variable {x : Value × Entry} {e : RegistryError} {es : Entries Entry}

theorem not_refused_of_registrable (h : Registrable x) : ¬ Refused x e := by
  obtain ⟨n, b, rfl, hword, hproblems⟩ := h
  intro hrefused
  cases hrefused with
  | badName hname => exact Bool.noConfusion ((hname n rfl).symm.trans hword)
  | invalid _ hne => exact hne hproblems

theorem registrable_or_refused (x : Value × Entry) : Registrable x ∨ ∃ e, Refused x e := by
  obtain ⟨name, entry⟩ := x
  by_cases hname : ∃ n, name = .str n ∧ isWord n = true
  · obtain ⟨n, rfl, hword⟩ := hname
    cases entry with
    | other given => exact Or.inr ⟨_, .notBinding hword⟩
    | binding b =>
      by_cases hproblems : b.problems = []
      · exact Or.inl ⟨n, b, rfl, hword, hproblems⟩
      · exact Or.inr ⟨_, .invalid hword hproblems⟩
  · refine Or.inr ⟨_, .badName fun n hn => ?_⟩
    simpa [hn] using hname

theorem Refused.unique {e' : RegistryError} (h : Refused x e) (h' : Refused x e') : e = e' := by
  cases h with
  | badName hname =>
    cases h' with
    | badName => rfl
    | notBinding hword => exact Bool.noConfusion ((hname _ rfl).symm.trans hword)
    | invalid hword => exact Bool.noConfusion ((hname _ rfl).symm.trans hword)
  | notBinding hword =>
    cases h' with
    | badName hname => exact Bool.noConfusion ((hname _ rfl).symm.trans hword)
    | notBinding => rfl
  | invalid hword =>
    cases h' with
    | badName hname => exact Bool.noConfusion ((hname _ rfl).symm.trans hword)
    | invalid => rfl

theorem firstRefused_cons_of_registrable (h : Registrable x) :
    FirstRefused (x :: es) e ↔ FirstRefused es e := by
  constructor
  · rintro ⟨before, y, after, heq, hbefore, hy⟩
    cases before with
    | nil => exact absurd ((List.cons.inj heq).1 ▸ hy) (not_refused_of_registrable h)
    | cons z before =>
      exact ⟨before, y, after, (List.cons.inj heq).2, (List.forall_mem_cons.mp hbefore).2, hy⟩
  · rintro ⟨before, y, after, rfl, hbefore, hy⟩
    exact ⟨x :: before, y, after, rfl, List.forall_mem_cons.mpr ⟨h, hbefore⟩, hy⟩

theorem firstRefused_cons_of_refused {e' : RegistryError} (h : Refused x e') :
    FirstRefused (x :: es) e ↔ e' = e := by
  constructor
  · rintro ⟨before, y, after, heq, hbefore, hy⟩
    cases before with
    | nil =>
      obtain rfl := (List.cons.inj heq).1
      exact h.unique hy
    | cons z before =>
      obtain rfl := (List.cons.inj heq).1
      exact absurd h (not_refused_of_registrable (hbefore x List.mem_cons_self))
  · rintro rfl
    exact ⟨[], x, es, rfl, fun y hy => absurd hy List.not_mem_nil, h⟩

theorem not_firstRefused_nil : ¬ FirstRefused [] e := by
  rintro ⟨before, x, after, heq, -⟩
  exact List.append_ne_nil_of_right_ne_nil before (List.cons_ne_nil x after) heq.symm

end Entries

namespace Registry

variable {r r' : Registry} {x : Value × Entry} {e : RegistryError} {es : Entries Entry}
  {n : String} {b : Binding} {h : List (String × Binding)}

theorem check_of_refused (hx : Refused x e) : check x.1 x.2 = .error e := by
  cases hx with
  | @badName name entry hname =>
    cases name with
    | str n => simp [check, hname n rfl]
    | _ => rfl
  | notBinding hword => simp [check, hword]
  | invalid hword hproblems => simp [check, hword, hproblems]

theorem register_of_refused (hx : Refused x e) : (r.register x.1 x.2).result = .error e := by
  rw [register, check_of_refused hx]
  rfl

theorem register_result (hword : isWord n = true) (hproblems : b.problems = []) :
    (r.register (.str n) (.binding b)).result = .ok (r.put n (.binding b)) := by
  simp [register, check, hword, hproblems]

theorem register_cases (r : Registry) (x : Value × Entry) :
    (Registrable x ∧ ∃ r', (r.register x.1 x.2).result = .ok r') ∨
      ∃ e, Refused x e ∧ (r.register x.1 x.2).result = .error e := by
  rcases registrable_or_refused x with hx | ⟨e, hx⟩
  · obtain ⟨n, b, rfl, hword, hproblems⟩ := id hx
    exact Or.inl ⟨hx, _, register_result hword hproblems⟩
  · exact Or.inr ⟨e, hx, register_of_refused hx⟩

theorem registrable_of_register (hok : (r.register x.1 x.2).result = .ok r') :
    Registrable x := by
  rcases register_cases r x with ⟨hx, -⟩ | ⟨e, -, herror⟩
  · exact hx
  · rw [herror] at hok
    cases hok

theorem registerAll_append (r : Registry) (xs ys : Entries Entry) :
    r.registerAll (xs ++ ys) = r.registerAll xs >>= fun r' => r'.registerAll ys := by
  induction xs generalizing r with
  | nil => rw [List.nil_append, registerAll, pure_bind]
  | cons x xs ih =>
    obtain ⟨name, entry⟩ := x
    rw [List.cons_append, registerAll, registerAll, bind_assoc]
    exact congrArg _ (funext fun r' => ih r')

/-- Merging registers the entries of both in a new registry. -/
theorem merge_eq (r : Registry) (upper : Entries Entry) :
    r.merge upper = ofEntries (r.bindings ++ upper) :=
  (registerAll_append empty r.bindings upper).symm

/-- Entries are registered up to the first that is refused. -/
theorem registerAll_eq_error_iff : (r.registerAll es).result = .error e ↔ FirstRefused es e := by
  induction es generalizing r with
  | nil => exact iff_of_false (fun h => by cases h) not_firstRefused_nil
  | cons x es ih =>
    obtain ⟨name, entry⟩ := x
    rw [registerAll]
    rcases register_cases r (name, entry) with ⟨hx, r', hok⟩ | ⟨e', hx, herror⟩
    · rw [firstRefused_cons_of_registrable hx, Traced.bind_of_ok hok]
      exact ih
    · rw [firstRefused_cons_of_refused hx, Traced.bind_of_error herror, Except.error.injEq]

theorem exists_ofEntries (hes : ∀ x ∈ es, Registrable x) : ∃ r, (ofEntries es).result = .ok r := by
  cases hresult : (ofEntries es).result with
  | ok r => exact ⟨r, rfl⟩
  | error e =>
    obtain ⟨before, x, after, rfl, -, hx⟩ := registerAll_eq_error_iff.mp hresult
    exact absurd hx (not_refused_of_registrable (hes x (by simp)))

/-! ### What a registry is told by -/

theorem has_iff : r.has n = true ↔ n ∈ r.order := by
  simp [has, order]

theorem order_put (r : Registry) (n : String) (entry : Entry) :
    (r.put n entry).order = if n ∈ r.order then r.order else r.order ++ [n] := by
  rw [put]
  by_cases hn : n ∈ r.order
  · rw [if_pos (has_iff.mpr hn), if_pos hn, order, List.map_map]
    refine List.map_congr_left fun x _ => ?_
    rw [Function.comp_apply]
    split <;> rfl
  · rw [if_neg fun hhas => hn (has_iff.mp hhas), if_neg hn, order, List.map_append]
    rfl

theorem get?_eq_none_iff {name : String} : r.get? name = none ↔ name ∉ r.order := by
  rw [← has_iff, has, get?, Option.map_eq_none_iff, List.find?_eq_none, List.any_eq_true]
  exact ⟨fun hnone ⟨e, he, hname⟩ => hnone e he hname, fun hno e he hname => hno ⟨e, he, hname⟩⟩

theorem get?_put (r : Registry) (n : String) (entry : Entry) (name : String) :
    (r.put n entry).get? name = if name = n then some entry else r.get? name := by
  rw [put]
  split
  next hhas =>
    have hkept : (fun e : String × Entry => e.1 == name) ∘
        (fun e => if e.1 == n then (e.1, entry) else e) = fun e => e.1 == name := by
      funext e
      rw [Function.comp_apply]
      split <;> rfl
    rw [get?, List.find?_map, hkept]
    cases hfind : r.entries.find? fun e => e.1 == name with
    | none =>
      have hnone : r.get? name = none := by rw [get?, hfind, Option.map_none]
      have hne : name ≠ n := fun heq => get?_eq_none_iff.mp hnone (heq ▸ has_iff.mp hhas)
      rw [if_neg hne, hnone]
      rfl
    | some e =>
      obtain rfl : e.1 = name := by simpa using List.find?_some hfind
      by_cases heq : e.1 = n <;> simp [heq, get?, hfind]
  next hhas =>
    have hnone : r.get? n = none := get?_eq_none_iff.mpr fun hn => hhas (has_iff.mpr hn)
    rw [get?, Option.map_eq_none_iff] at hnone
    by_cases heq : name = n
    · simp [heq, get?, List.find?_append, hnone]
    · simp [heq, get?, List.find?_append, Ne.symm heq]

/-- A registry is told by what has been registered in it: each name stands where it was registered
first, under it stands what was registered last, and all of it is sound. -/
structure ToldBy (r : Registry) (h : List (String × Binding)) : Prop where
  sound : ∀ x ∈ r.entries, Registrable (.str x.1, x.2)
  nodup : r.order.Nodup
  order_eq : r.order = (h.map (·.1)).eraseDups
  get?_eq : ∀ name, r.get? name = (h.reverse.lookup name).map .binding

theorem toldBy_empty : empty.ToldBy [] where
  sound := fun _ hx => absurd hx List.not_mem_nil
  nodup := List.nodup_nil
  order_eq := rfl
  get?_eq := fun _ => rfl

theorem mem_entries_put {entry : Entry} {x : String × Entry} (hx : x ∈ (r.put n entry).entries) :
    x ∈ r.entries ∨ x = (n, entry) := by
  rw [put] at hx
  split at hx
  next =>
    obtain ⟨e, he, rfl⟩ := List.mem_map.mp hx
    split
    next heq => exact Or.inr (Prod.ext (beq_iff_eq.mp heq) rfl)
    next => exact Or.inl he
  next => simpa using hx

theorem ToldBy.put (hr : r.ToldBy h) (hword : isWord n = true) (hproblems : b.problems = []) :
    (r.put n (.binding b)).ToldBy (h ++ [(n, b)]) where
  sound := by
    intro x hx
    rcases mem_entries_put hx with hx | rfl
    · exact hr.sound x hx
    · exact ⟨n, b, rfl, hword, hproblems⟩
  nodup := by
    rw [order_put]
    split
    next => exact hr.nodup
    next hnew =>
      refine List.nodup_append.mpr ⟨hr.nodup, List.pairwise_singleton _ n, fun a ha m hm heq => ?_⟩
      exact hnew (List.mem_singleton.mp hm ▸ heq ▸ ha)
  order_eq := by
    have hmem : n ∈ r.order ↔ n ∈ h.map (·.1) := by rw [hr.order_eq, List.mem_eraseDups]
    rw [order_put, List.map_append, List.map_singleton, List.eraseDups_append, ← hr.order_eq]
    by_cases hn : n ∈ h.map (·.1)
    · simp [hmem.mpr hn, List.removeAll, hn]
    · simp [mt hmem.mp hn, List.removeAll, hn, List.eraseDups_cons]
  get?_eq := by
    intro name
    -- from behind, the new registration is the first one that is met
    rw [get?_put, List.reverse_append, List.reverse_singleton, List.singleton_append,
      List.lookup_cons, hr.get?_eq name]
    by_cases hname : name = n
    · simp [hname]
    · simp [hname, beq_eq_false_iff_ne.mpr hname]

theorem ToldBy.register {name : Value} {entry : Entry} (hr : r.ToldBy h)
    (hok : (r.register name entry).result = .ok r') :
    r'.ToldBy (h ++ recorded [(name, entry)]) := by
  obtain ⟨n, b, heq, hword, hproblems⟩ := registrable_of_register (x := (name, entry)) hok
  obtain ⟨rfl, rfl⟩ := Prod.mk.inj heq
  rw [register_result hword hproblems] at hok
  exact Except.ok.inj hok ▸ hr.put hword hproblems

theorem ToldBy.registerAll (hr : r.ToldBy h) (hok : (r.registerAll es).result = .ok r') :
    r'.ToldBy (h ++ recorded es) := by
  induction es generalizing r h with
  | nil =>
    obtain rfl := Except.ok.inj hok
    exact (List.append_nil h).symm ▸ hr
  | cons x es ih =>
    obtain ⟨name, entry⟩ := x
    rw [Registry.registerAll] at hok
    cases hx : (r.register name entry).result with
    | ok r₁ =>
      rw [Traced.bind_of_ok hx] at hok
      rw [recorded_cons, ← List.append_assoc]
      exact ih (hr.register hx) hok
    | error e =>
      rw [Traced.bind_of_error hx] at hok
      cases hok

theorem ToldBy.registrable_bindings (hr : r.ToldBy h) : ∀ x ∈ r.bindings, Registrable x := by
  intro x hx
  obtain ⟨y, hy, rfl⟩ := List.mem_map.mp hx
  exact hr.sound y hy

theorem ToldBy.validateAll_eq (hr : r.ToldBy h) : r.validateAll = .ok [] := by
  have hsound := hr.sound
  rw [validateAll]
  generalize r.entries = entries at hsound
  induction entries with
  | nil => rfl
  | cons x entries ih =>
    obtain ⟨⟨n, b, heq, -, hproblems⟩, hsound⟩ := List.forall_mem_cons.mp hsound
    obtain ⟨-, hb⟩ := Prod.mk.inj heq
    rw [List.foldlM_cons, hb]
    simp only [hproblems, List.map_nil, List.append_nil]
    exact ih hsound

theorem pairwise_names (r : Registry) : r.names.Pairwise (· ≤ ·) := by
  have htrans : ∀ a b c : String, decide (a ≤ b) = true → decide (b ≤ c) = true →
      decide (a ≤ c) = true := fun a b c hab hbc =>
    decide_eq_true (String.le_trans (of_decide_eq_true hab) (of_decide_eq_true hbc))
  have htotal : ∀ a b : String, (decide (a ≤ b) || decide (b ≤ a)) = true := fun a b => by
    simpa using String.le_total a b
  exact (List.pairwise_mergeSort htrans htotal r.order).imp of_decide_eq_true

theorem names_perm_order (r : Registry) : r.names.Perm r.order :=
  List.mergeSort_perm _ _

end Registry

/-! ### Registries side by side

Registries are filled in place: where an entry is refused, what was registered before it stays in
the registry that was being filled. That seeding and merging leave what was there is since they fill
a registry of their own. -/

structure Kept where
  registry : Registry
  history : List (String × Binding)

def Kept.fresh : Kept :=
  ⟨.empty, []⟩

structure Kept.Sound (k : Kept) : Prop where
  toldBy : k.registry.ToldBy k.history
  validateAll_eq : k.registry.validateAll = .ok []
  pairwise_names : k.registry.names.Pairwise (· ≤ ·)
  names_perm_order : k.registry.names.Perm k.registry.order

theorem Kept.sound_iff {k : Kept} : k.Sound ↔ k.registry.ToldBy k.history :=
  ⟨Sound.toldBy, fun h => ⟨h, h.validateAll_eq, k.registry.pairwise_names,
    k.registry.names_perm_order⟩⟩

theorem Kept.sound_fresh : fresh.Sound :=
  sound_iff.mpr Registry.toldBy_empty

abbrev Store := List Kept

namespace Store

variable {s : Store} {i j : Nat} {es : Entries Entry} {e : RegistryError} {r : Registry}

/-- The registry with a number; one that is not there counts as empty. -/
def held (s : Store) (i : Nat) : Kept :=
  s[i]?.getD .fresh

def fill (i : Nat) : Entries Entry → Store → Option RegistryError × Store
  | [], s => (none, s)
  | (name, entry) :: rest, s =>
    match ((s.held i).registry.register name entry).result with
    | .ok r => fill i rest (s.set i ⟨r, (s.held i).history ++ recorded [(name, entry)]⟩)
    | .error e => (some e, s)

def Sound (s : Store) : Prop :=
  ∀ k ∈ s, k.Sound

theorem Sound.held (h : s.Sound) (i : Nat) : (s.held i).Sound := by
  rw [Store.held]
  cases hi : s[i]? with
  | none => exact Kept.sound_fresh
  | some k => exact h k (List.mem_of_getElem? hi)

theorem Sound.set {k : Kept} (h : s.Sound) (hk : k.Sound) : Sound (s.set i k) := by
  intro x hx
  rcases List.mem_or_eq_of_mem_set hx with hx | rfl
  · exact h x hx
  · exact hk

theorem Sound.fill (h : s.Sound) (i : Nat) (es : Entries Entry) : Sound (fill i es s).2 := by
  induction es generalizing s with
  | nil => exact h
  | cons x es ih =>
    obtain ⟨name, entry⟩ := x
    rw [Store.fill]
    split
    next r hok => exact ih (h.set (Kept.sound_iff.mpr ((h.held i).toldBy.register hok)))
    next => exact h

end Store

inductive Supply where
  | given (entries : Entries Entry)
  | registry (i : Nat)

def Supply.entries (s : Store) : Supply → Entries Entry
  | given entries => entries
  | registry i => (s.held i).registry.bindings

inductive Operation where
  | seed (supply : Supply)
  | register (i : Nat) (name : Value) (entry : Entry)
  | merge (i : Nat) (upper : Supply)

namespace Operation

variable {s : Store} {op : Operation} {e : RegistryError} {r : Registry}

def outcome (s : Store) : Operation → Except RegistryError Registry
  | seed supply => (Registry.ofEntries (supply.entries s)).result
  | register i name entry => ((s.held i).registry.register name entry).result
  | merge i upper => ((s.held i).registry.merge (upper.entries s)).result

def history (s : Store) : Operation → List (String × Binding)
  | seed supply => recorded (supply.entries s)
  | register i name entry => (s.held i).history ++ recorded [(name, entry)]
  | merge i upper => recorded ((s.held i).registry.bindings ++ upper.entries s)

def perform (s : Store) : Operation → Option RegistryError × Store
  | seed supply => Store.fill s.length (supply.entries s) (s ++ [.fresh])
  | register i name entry => Store.fill i [(name, entry)] s
  | merge i upper =>
    Store.fill s.length ((s.held i).registry.bindings ++ upper.entries s) (s ++ [.fresh])

theorem sound_perform (hs : s.Sound) (op : Operation) : Store.Sound (op.perform s).2 := by
  have hfresh : Store.Sound (s ++ [.fresh]) := by
    intro k hk
    rcases List.mem_append.mp hk with hk | hk
    · exact hs k hk
    · exact List.mem_singleton.mp hk ▸ Kept.sound_fresh
  cases op with
  | seed supply => exact hfresh.fill _ _
  | register i name entry => exact hs.fill _ _
  | merge i upper => exact hfresh.fill _ _

end Operation

def Store.run (ops : List Operation) : Store :=
  ops.foldl (fun s op => (op.perform s).2) []

theorem Store.sound_run (ops : List Operation) : (run ops).Sound :=
  List.foldlRecOn ops _ (fun _ hk => absurd hk List.not_mem_nil) fun _ hs op _ =>
    Operation.sound_perform hs op

def halfRegistrable : Entries Entry :=
  [(.str "c", .binding (.value (.opaqueNode "Cy"))), (.str "no word", .other .null)]

end RichTemplate
