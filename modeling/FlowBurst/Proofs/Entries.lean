import FlowBurst.Switch.Registry
import Mathlib.Tactic.Lemma

/-!
# The entries of a registry

A registry keeps its handles in the order of their datapaths, at most one for each. What a datapath
is registered with, and what registering and removing leave. Main statements: `get?_eq_some_iff`,
`mem_register`, `get?_register`, `mem_deregister`, `get?_deregister`.
-/

namespace FlowBurst.Switch.Registry

/-- **The order of a registry**: the datapaths of its handles ascend. -/
def Ordered (g : Registry) : Prop :=
  g.handles.Pairwise fun h k => h.datapath.value < k.datapath.value

variable {g : Registry} {d : DatapathId} {h k : Handle} {r : Reference}

lemma ordered_empty : Ordered {} := List.Pairwise.nil

/-- The handles of a registry are told apart by their datapaths. -/
lemma Ordered.eq_of_datapath (ho : g.Ordered) (hh : h ∈ g.handles) (hk : k ∈ g.handles)
    (e : h.datapath = k.datapath) : h = k := by
  have apart {h k : Handle} (lt : h.datapath.value < k.datapath.value) : h.datapath ≠ k.datapath := by
    intro e
    rw [e] at lt
    exact UInt64.lt_irrefl _ lt
  exact List.Pairwise.forall_of_forall_of_flip
    (R := fun h k => h.datapath = k.datapath → h = k) (fun _ _ _ => rfl)
    (ho.imp fun lt e => (apart lt e).elim) (ho.imp fun lt e => (apart lt e.symm).elim) hh hk e

/-- **What a datapath is registered with.** -/
theorem get?_eq_some_iff (ho : g.Ordered) :
    g.get? d = some h ↔ h ∈ g.handles ∧ h.datapath = d := by
  unfold get?
  constructor
  · intro e
    exact ⟨List.mem_of_find?_eq_some e, by simpa using List.find?_some e⟩
  · rintro ⟨hh, rfl⟩
    cases e : g.handles.find? fun k => decide (k.datapath = h.datapath) with
    | none => simpa using List.find?_eq_none.1 e h hh
    | some k =>
      have same : k.datapath = h.datapath := by simpa using List.find?_some e
      rw [ho.eq_of_datapath (List.mem_of_find?_eq_some e) hh same]

/-- **A registry is what its datapaths are registered with.** -/
theorem Ordered.eq_of_get? {g' : Registry} (ho : g.Ordered) (ho' : g'.Ordered)
    (same : ∀ d, g'.get? d = g.get? d) : g' = g := by
  have nodup {f : Registry} (hf : f.Ordered) : f.handles.Nodup :=
    hf.imp fun {a b} lt (e : a = b) => UInt64.lt_irrefl _ (e ▸ lt)
  have perm : g'.handles.Perm g.handles := by
    refine (List.perm_ext_iff_of_nodup (nodup ho') (nodup ho)).2 fun h => ?_
    have held {f : Registry} (hf : f.Ordered) : h ∈ f.handles ↔ f.get? h.datapath = some h := by
      rw [get?_eq_some_iff hf]
      exact (and_iff_left rfl).symm
    rw [held ho', held ho, same]
  have handles : g'.handles = g.handles :=
    perm.eq_of_pairwise (fun _ _ _ _ lt gt => (UInt64.lt_asymm lt gt).elim) ho' ho
  cases g
  cases g'
  exact congrArg Registry.mk handles

/-! ### Registering -/

lemma lt_of_not_lt_of_ne {a b : DatapathId} (h : ¬ a.value < b.value) (ne : a ≠ b) :
    b.value < a.value := by
  have : a.value ≠ b.value := fun e => ne (by cases a; cases b; simp_all)
  rw [UInt64.lt_iff_toNat_lt] at h ⊢
  have : a.value.toNat ≠ b.value.toNat := fun e => this (UInt64.toNat_inj.1 e)
  omega

/-- Registering adds a handle and takes out the one with its datapath. -/
lemma mem_insert {hs : List Handle} (ho : Ordered ⟨hs⟩) :
    h ∈ insert k hs ↔ h = k ∨ h ∈ hs ∧ h.datapath ≠ k.datapath := by
  induction hs with
  | nil => simp [insert]
  | cons x xs ih =>
    have ho' : Ordered ⟨xs⟩ := (List.pairwise_cons.1 ho).2
    have above : ∀ y ∈ xs, x.datapath.value < y.datapath.value := (List.pairwise_cons.1 ho).1
    unfold insert
    split
    next lt =>
      have differ : ∀ y ∈ x :: xs, y.datapath ≠ k.datapath := by
        intro y hy e
        have : k.datapath.value < y.datapath.value := by
          rcases List.mem_cons.1 hy with rfl | hy
          · exact lt
          · exact UInt64.lt_trans lt (above y hy)
        rw [e] at this
        exact UInt64.lt_irrefl _ this
      rw [List.mem_cons]
      exact or_congr_right ⟨fun hh => ⟨hh, differ h hh⟩, And.left⟩
    next not_lt =>
      split
      next same =>
        have differ : ∀ y ∈ xs, y.datapath ≠ k.datapath := by
          intro y hy e
          have := above y hy
          rw [e, same] at this
          exact UInt64.lt_irrefl _ this
        rw [List.mem_cons, List.mem_cons]
        refine or_congr_right ⟨fun hh => ⟨.inr hh, differ h hh⟩, fun ⟨hh, ne⟩ => ?_⟩
        rcases hh with rfl | hh
        · exact (ne same.symm).elim
        · exact hh
      next other =>
        rw [List.mem_cons, ih ho', List.mem_cons]
        constructor
        · rintro (rfl | rfl | ⟨hh, ne⟩)
          · exact .inr ⟨.inl rfl, fun e => other e.symm⟩
          · exact .inl rfl
          · exact .inr ⟨.inr hh, ne⟩
        · rintro (rfl | ⟨rfl | hh, ne⟩)
          · exact .inr (.inl rfl)
          · exact .inl rfl
          · exact .inr (.inr ⟨hh, ne⟩)

lemma ordered_insert {hs : List Handle} (ho : Ordered ⟨hs⟩) : Ordered ⟨insert k hs⟩ := by
  induction hs with
  | nil => exact List.pairwise_singleton _ _
  | cons x xs ih =>
    obtain ⟨above, ho'⟩ := List.pairwise_cons.1 ho
    unfold insert
    split
    next lt =>
      refine List.pairwise_cons.2 ⟨fun y hy => ?_, ho⟩
      rcases List.mem_cons.1 hy with rfl | hy
      · exact lt
      · exact UInt64.lt_trans lt (above y hy)
    next not_lt =>
      split
      next same => exact List.pairwise_cons.2 ⟨fun y hy => same ▸ above y hy, ho'⟩
      next other =>
        refine List.pairwise_cons.2 ⟨fun y hy => ?_, ih ho'⟩
        rcases (mem_insert ho').1 hy with rfl | ⟨hy, -⟩
        · exact lt_of_not_lt_of_ne not_lt other
        · exact above y hy

/-- **What registering leaves.** -/
theorem mem_register (ho : g.Ordered) :
    h ∈ (g.register k).2.handles ↔ h = k ∨ h ∈ g.handles ∧ h.datapath ≠ k.datapath :=
  mem_insert ho

lemma ordered_register (ho : g.Ordered) : (g.register k).2.Ordered := ordered_insert ho

lemma find?_insert (hs : List Handle) (d : DatapathId) :
    (insert k hs).find? (fun h => decide (h.datapath = d)) =
      if k.datapath = d then some k else hs.find? fun h => decide (h.datapath = d) := by
  induction hs with
  | nil =>
    unfold insert
    split <;> simp [*]
  | cons x xs ih =>
    unfold insert
    split
    · split <;> simp [*]
    next =>
      split
      next same => split <;> simp_all
      next other =>
        rw [List.find?_cons, ih, List.find?_cons]
        by_cases own : k.datapath = d
        · have apart : x.datapath ≠ d := fun e => other (own.trans e.symm)
          simp [own, apart]
        · simp [own]

/-- **What a datapath is registered with after registering.** -/
theorem get?_register :
    (g.register k).2.get? d = if k.datapath = d then some k else g.get? d :=
  find?_insert g.handles d

/-! ### Removing -/

/-- Only the connection that holds an entry removes it. -/
theorem deregister_eq_true_iff (ho : g.Ordered) :
    (g.deregister r).1 = true ↔ ∃ h ∈ g.handles, h.switch = r := by
  unfold deregister
  split
  next h e =>
    obtain ⟨hh, hd⟩ := (get?_eq_some_iff ho).1 e
    split
    next own => exact ⟨fun _ => ⟨h, hh, own⟩, fun _ => rfl⟩
    next other =>
      refine ⟨fun e => Bool.noConfusion e, fun ⟨k, hk, own⟩ => (other ?_).elim⟩
      rw [ho.eq_of_datapath hh hk (hd.trans (own ▸ rfl)), own]
  next e =>
    refine ⟨fun e => Bool.noConfusion e, fun ⟨k, hk, own⟩ => ?_⟩
    have := (get?_eq_some_iff ho).2 ⟨hk, (own ▸ rfl : k.datapath = r.datapath)⟩
    rw [e] at this
    cases this

/-- Whoever holds no entry leaves the registry as it is. -/
theorem deregister_of_false (e : (g.deregister r).1 = false) : (g.deregister r).2 = g := by
  unfold deregister at e ⊢
  split
  next h _ =>
    split
    next own => simp_all
    next => rfl
  next => rfl

/-- **What removing leaves.** -/
theorem mem_deregister (ho : g.Ordered) :
    h ∈ (g.deregister r).2.handles ↔ h ∈ g.handles ∧ h.switch ≠ r := by
  cases removed : (g.deregister r).1 with
  | false =>
    rw [deregister_of_false removed]
    refine ⟨fun hh => ⟨hh, fun own => ?_⟩, And.left⟩
    rw [(deregister_eq_true_iff ho).2 ⟨h, hh, own⟩] at removed
    cases removed
  | true =>
    obtain ⟨k, hk, own⟩ := (deregister_eq_true_iff ho).1 removed
    have held : g.get? r.datapath = some k := (get?_eq_some_iff ho).2 ⟨hk, own ▸ rfl⟩
    have after : (g.deregister r).2.handles =
        g.handles.filter fun k => k.datapath ≠ r.datapath := by
      unfold deregister
      rw [held]
      simp [own]
    rw [after, List.mem_filter]
    refine and_congr_right fun hh => ?_
    simp only [ne_eq, decide_not, Bool.not_eq_true', decide_eq_false_iff_not]
    refine not_congr ⟨fun e => ?_, fun e => e ▸ rfl⟩
    rw [ho.eq_of_datapath hh hk (e.trans (own ▸ rfl)), own]

/-- **What a datapath is registered with after removing.** -/
theorem get?_deregister :
    (g.deregister r).2.get? d =
      if r.datapath = d ∧ (g.get? d).map Handle.switch = some r then none else g.get? d := by
  unfold deregister
  by_cases own : r.datapath = d
  · subst own
    cases held : g.get? r.datapath with
    | none => simp [held]
    | some h =>
      by_cases same : h.switch = r
      · simp [same, get?]
      · simp [same, held]
  · have kept : (g.handles.filter fun k => k.datapath ≠ r.datapath).find?
        (fun h => decide (h.datapath = d)) = g.get? d := by
      unfold get?
      rw [List.find?_filter]
      congr 1
      funext k
      by_cases here : k.datapath = d
      · simp [here, Ne.symm own]
      · simp [here]
    rw [if_neg fun e => own e.1]
    split
    · split
      · exact kept
      · rfl
    · rfl

/-- Whether removing takes an entry out. -/
lemma deregister_fst : (g.deregister r).1 = ((g.get? r.datapath).map Handle.switch == some r) := by
  unfold deregister
  split
  next h e =>
    split <;> simp [*]
  next e => simp [e]

lemma ordered_deregister (ho : g.Ordered) : (g.deregister r).2.Ordered := by
  unfold deregister
  split
  · split
    · exact ho.filter _
    · exact ho
  · exact ho

end FlowBurst.Switch.Registry
