import RichTemplate.Proofs.Registering
import Mathlib.Data.List.Nodup

/-!
# Merging

A registry that is laid over another adds its new names at the end and its bindings everywhere. What
registries hold is sound, so merging them never fails, and since a registry is told by its order and
by what it finds, the laws of merging are laws of these two: names are put behind those that are
there, and the upper registry is asked first.
-/

namespace RichTemplate

theorem eraseDups_of_nodup {names : List String} (h : names.Nodup) : names.eraseDups = names := by
  induction names with
  | nil => rfl
  | cons n names ih =>
    obtain ⟨hnew, hnodup⟩ := List.nodup_cons.mp h
    have hrest : (names.filter fun m => !m == n) = names := by
      refine List.filter_eq_self.mpr fun m hm => ?_
      have hne : m ≠ n := fun heq => hnew (heq ▸ hm)
      simpa using hne
    rw [List.eraseDups_cons, hrest, ih hnodup]

theorem lookup_eq_some_iff_mem {α : Type} {es : List (String × α)}
    (hnodup : (es.map (·.1)).Nodup) {n : String} {x : α} :
    es.lookup n = some x ↔ (n, x) ∈ es := by
  constructor
  · intro hx
    obtain ⟨front, rest, rfl, -⟩ := List.lookup_eq_some_iff.mp hx
    exact List.mem_append_right front List.mem_cons_self
  · intro hx
    obtain ⟨front, rest, rfl⟩ := List.append_of_mem hx
    refine List.lookup_eq_some_iff.mpr ⟨front, rest, rfl, fun e he => ?_⟩
    rw [List.map_append, List.map_cons, List.nodup_append] at hnodup
    have hne : e.1 ≠ n := hnodup.2.2 e.1 (List.mem_map_of_mem he) n List.mem_cons_self
    simpa using hne.symm

namespace Registry

variable {r r' a b c ab bc : Registry} {n : String} {h k : List (String × Binding)}

/-- The registry that comes of laying the second over the first: the names of the first, then the
new ones of the second, each with the binding that the second has for it, if it has one. -/
structure Overlays (r a b : Registry) : Prop where
  order_eq : r.order = a.order ++ b.order.filter fun n => n ∉ a.order
  get?_eq : ∀ n, r.get? n = (b.get? n).or (a.get? n)

/-! ### A registry is told by its order and by what it finds -/

theorem get?_eq_some_iff (hnodup : r.order.Nodup) {entry : Entry} :
    r.get? n = some entry ↔ (n, entry) ∈ r.entries := by
  rw [get?, Option.map_eq_some_iff]
  constructor
  · rintro ⟨e, hfind, rfl⟩
    have hname : e.1 = n := by simpa using List.find?_some hfind
    exact hname ▸ List.mem_of_find?_eq_some hfind
  · intro he
    cases hfind : r.entries.find? fun e => e.1 == n with
    | none => exact absurd (beq_self_eq_true n) (List.find?_eq_none.mp hfind _ he)
    | some e =>
      have hname : e.1 = n := by simpa using List.find?_some hfind
      have hsame : e = (n, entry) :=
        List.inj_on_of_nodup_map hnodup (List.mem_of_find?_eq_some hfind) he hname
      exact ⟨e, rfl, congrArg Prod.snd hsame⟩

theorem entries_eq_filterMap (hnodup : r.order.Nodup) :
    r.entries = r.order.filterMap fun n => (r.get? n).map fun entry => (n, entry) := by
  rw [order, List.filterMap_map]
  refine List.filterMap_some.symm.trans (List.filterMap_congr fun e he => ?_)
  rw [Function.comp_apply, (get?_eq_some_iff hnodup).mpr he, Option.map_some]

theorem ext_of_nodup (hnodup : r.order.Nodup) (horder : r.order = r'.order)
    (hget : ∀ n, r.get? n = r'.get? n) : r = r' := by
  have hentries : r.entries = r'.entries := by
    rw [entries_eq_filterMap hnodup, entries_eq_filterMap (horder ▸ hnodup), horder]
    simp only [hget]
  cases r
  cases r'
  exact congrArg Registry.mk hentries

/-! ### Laying one over the other -/

theorem Overlays.nodup (hr : r.Overlays a b) (ha : a.order.Nodup) (hb : b.order.Nodup) :
    r.order.Nodup := by
  rw [hr.order_eq]
  refine List.nodup_append.mpr ⟨ha, hb.filter _, fun n hn m hm heq => ?_⟩
  have hnew : m ∉ a.order := by simpa using List.of_mem_filter hm
  exact hnew (heq ▸ hn)

theorem Overlays.eq (hr : r.Overlays a b) (hr' : r'.Overlays a b) (ha : a.order.Nodup)
    (hb : b.order.Nodup) : r = r' :=
  ext_of_nodup (hr.nodup ha hb) (hr.order_eq.trans hr'.order_eq.symm) fun n =>
    (hr.get?_eq n).trans (hr'.get?_eq n).symm

theorem overlays_self (a : Registry) : a.Overlays a a where
  order_eq := by simp
  get?_eq _ := Option.or_self.symm

theorem overlays_empty (a : Registry) : a.Overlays a empty where
  order_eq := (List.append_nil a.order).symm
  get?_eq _ := Option.none_or.symm

theorem empty_overlays (a : Registry) : a.Overlays empty a where
  order_eq := by simp [empty, order]
  get?_eq _ := Option.or_none.symm

theorem Overlays.mem_order_iff (hr : r.Overlays a b) :
    n ∈ r.order ↔ n ∈ a.order ∨ n ∈ b.order := by
  rw [hr.order_eq, List.mem_append, List.mem_filter, decide_eq_true_iff]
  tauto

theorem Overlays.assoc (hab : ab.Overlays a b) (hbc : bc.Overlays b c) (hr : r.Overlays ab c) :
    r.Overlays a bc where
  order_eq := by
    -- a name of the last is new to the first two if it is new to each
    have hnew : (c.order.filter fun n => n ∉ ab.order)
        = (c.order.filter fun n => n ∉ b.order).filter fun n => n ∉ a.order := by
      rw [List.filter_filter]
      refine List.filter_congr fun n _ => ?_
      simp [hab.mem_order_iff]
    rw [hr.order_eq, hnew, hab.order_eq, hbc.order_eq, List.filter_append, List.append_assoc]
  get?_eq n := by rw [hr.get?_eq, hab.get?_eq, hbc.get?_eq, Option.or_assoc]

/-! ### Merging what has been registered -/

theorem mem_recorded_bindings {x : Binding} :
    (n, x) ∈ recorded r.bindings ↔ (n, .binding x) ∈ r.entries := by
  rw [recorded, List.mem_filterMap]
  constructor
  · rintro ⟨y, hy, hx⟩
    obtain ⟨⟨m, entry⟩, he, rfl⟩ := List.mem_map.mp hy
    cases entry with
    | binding x' =>
      obtain ⟨rfl, rfl⟩ := Prod.mk.inj (Option.some.inj hx)
      exact he
    | other given => cases hx
  · intro he
    exact ⟨_, List.mem_map.mpr ⟨_, he, rfl⟩, rfl⟩

theorem ToldBy.map_recorded_bindings (hr : r.ToldBy h) :
    (recorded r.bindings).map (·.1) = r.order := by
  rw [recorded, bindings, List.filterMap_map, List.map_filterMap, order, ← List.filterMap_eq_map]
  refine List.filterMap_congr fun e he => ?_
  obtain ⟨m, x, heq, -, -⟩ := hr.sound e he
  obtain ⟨-, hx⟩ := Prod.mk.inj heq
  rw [Function.comp_apply, hx]
  rfl

/-- What a registry holds finds what the registry finds. -/
theorem ToldBy.lookup_recorded_bindings (hr : r.ToldBy h) (n : String) :
    ((recorded r.bindings).reverse.lookup n).map .binding = r.get? n := by
  have hnodup : ((recorded r.bindings).reverse.map (·.1)).Nodup := by
    rw [List.map_reverse, List.nodup_reverse, hr.map_recorded_bindings]
    exact hr.nodup
  ext entry
  rw [Option.map_eq_some_iff, get?_eq_some_iff hr.nodup]
  constructor
  · rintro ⟨x, hx, rfl⟩
    exact mem_recorded_bindings.mp (List.mem_reverse.mp ((lookup_eq_some_iff_mem hnodup).mp hx))
  · intro he
    obtain ⟨m, x, heq, -, -⟩ := hr.sound _ he
    obtain ⟨-, rfl⟩ := Prod.mk.inj heq
    refine ⟨x, (lookup_eq_some_iff_mem hnodup).mpr ?_, rfl⟩
    exact List.mem_reverse.mpr (mem_recorded_bindings.mpr he)

/-- Registries that have been registered in merge to one that is laid over the other. -/
theorem ToldBy.exists_merge (ha : a.ToldBy h) (hb : b.ToldBy k) :
    ∃ r, (a.merge b.bindings).result = .ok r ∧ r.Overlays a b ∧ ∃ g, r.ToldBy g := by
  have hregistrable : ∀ x ∈ a.bindings ++ b.bindings, Registrable x :=
    List.forall_mem_append.mpr ⟨ha.registrable_bindings, hb.registrable_bindings⟩
  obtain ⟨r, hr⟩ := exists_ofEntries hregistrable
  have htold : r.ToldBy (recorded a.bindings ++ recorded b.bindings) := by
    rw [recorded, recorded, ← List.filterMap_append]
    exact toldBy_empty.registerAll hr
  refine ⟨r, merge_eq a b.bindings ▸ hr, ⟨?_, fun n => ?_⟩, _, htold⟩
  · have hnew : b.order.removeAll a.order = b.order.filter fun n => n ∉ a.order :=
      List.filter_congr fun n _ => by simp
    rw [htold.order_eq, List.map_append, ha.map_recorded_bindings, hb.map_recorded_bindings,
      List.eraseDups_append, eraseDups_of_nodup ha.nodup, hnew,
      eraseDups_of_nodup (hb.nodup.filter _)]
  · rw [htold.get?_eq, List.reverse_append, List.lookup_append, Option.map_or,
      ha.lookup_recorded_bindings, hb.lookup_recorded_bindings]

theorem ToldBy.merge_result (ha : a.ToldBy h) (hb : b.ToldBy k) (hr : r.Overlays a b) :
    (a.merge b.bindings).result = .ok r := by
  obtain ⟨r', hok, hr', -⟩ := ha.exists_merge hb
  rw [hok, hr.eq hr' ha.nodup hb.nodup]

end Registry

/-- **Merging makes an idempotent monoid of registries.** Any registries that operations come to
merge to one that is laid over the other; it does not matter which two of three are merged first,
a registry is not changed by an empty one nor by itself. -/
theorem merging_is_idempotent_monoid (ops : List Operation) :
    ∀ a ∈ (Store.run ops).map Kept.registry,
      (a.merge Registry.empty.bindings).result = .ok a ∧
      (Registry.empty.merge a.bindings).result = .ok a ∧
      (a.merge a.bindings).result = .ok a ∧
      ∀ b ∈ (Store.run ops).map Kept.registry,
        ∃ ab, (a.merge b.bindings).result = .ok ab ∧ ab.Overlays a b ∧
          ∀ c ∈ (Store.run ops).map Kept.registry,
            ∃ bc abc, (b.merge c.bindings).result = .ok bc ∧
              (ab.merge c.bindings).result = .ok abc ∧ (a.merge bc.bindings).result = .ok abc := by
  have htold : ∀ r ∈ (Store.run ops).map Kept.registry, ∃ h, r.ToldBy h := by
    intro r hr
    obtain ⟨k, hk, rfl⟩ := List.mem_map.mp hr
    exact ⟨k.history, (Store.sound_run ops k hk).toldBy⟩
  intro a ha
  obtain ⟨h, ha⟩ := htold a ha
  refine ⟨ha.merge_result Registry.toldBy_empty a.overlays_empty,
    Registry.toldBy_empty.merge_result ha a.empty_overlays, ha.merge_result ha a.overlays_self,
    fun b hb => ?_⟩
  obtain ⟨k, hb⟩ := htold b hb
  obtain ⟨ab, hab, habOverlays, g, habTold⟩ := ha.exists_merge hb
  refine ⟨ab, hab, habOverlays, fun c hc => ?_⟩
  obtain ⟨l, hc⟩ := htold c hc
  obtain ⟨bc, hbc, hbcOverlays, _, hbcTold⟩ := hb.exists_merge hc
  obtain ⟨abc, habc, habcOverlays, -⟩ := habTold.exists_merge hc
  exact ⟨bc, abc, hbc, habc,
    ha.merge_result hbcTold (habOverlays.assoc hbcOverlays habcOverlays)⟩

def overlapping : List Operation :=
  [.seed (.given Interpolation.greeting), .seed (.given (halfRegistrable.take 1)),
    .register 1 (.str "b") (.binding (.value (.str "B.")))]

theorem merging_is_idempotent_monoid_of_overlapping :
    let a := ((Store.run overlapping).held 0).registry
    let b := ((Store.run overlapping).held 1).registry
    a ∈ (Store.run overlapping).map Kept.registry ∧
    b ∈ (Store.run overlapping).map Kept.registry ∧
    (a.merge a.bindings).result = .ok a ∧
    ∃ ab, (a.merge b.bindings).result = .ok ab ∧ ab.order = ["b", "user", "c"] ∧
      ab.get? "b" = some (.binding (.value (.str "B."))) ∧
      ∃ ba aba, (b.merge a.bindings).result = .ok ba ∧
        (ab.merge a.bindings).result = .ok aba ∧ (a.merge ba.bindings).result = .ok aba := by
  intro a b
  have ha : a ∈ (Store.run overlapping).map Kept.registry := List.mem_cons_self
  have hb : b ∈ (Store.run overlapping).map Kept.registry :=
    List.mem_cons_of_mem _ List.mem_cons_self
  obtain ⟨-, -, hself, hmerge⟩ := merging_is_idempotent_monoid overlapping a ha
  obtain ⟨ab, hab, hoverlays, hassoc⟩ := hmerge b hb
  exact ⟨ha, hb, hself, ab, hab, hoverlays.order_eq, hoverlays.get?_eq "b", hassoc a ha⟩

end RichTemplate
