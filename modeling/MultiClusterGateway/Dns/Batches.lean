import MultiClusterGateway.Dns.Google

set_option autoImplicit false

/-! # The batches of a change

`batchChange` goes through the names of a change in increasing order and puts what the change says
about each name into the current batch, or into a new one when it does not fit any more. So a batch
is the part of the change about some consecutive names (`exists_groups_batchChange`), from which the
rest follows: names are not split over batches, batches are neither empty nor too large, and only
names with too many changes are left out (`batchChange_partitions`). -/

namespace MultiClusterGateway.Google

/-- The parts of a change about some names, one after the other. -/
def Change.forNames (c : Change) (names : List String) : Change where
  additions := names.flatMap fun name => (c.forName name).additions
  deletions := names.flatMap fun name => (c.forName name).deletions

section
variable {c : Change} {name : String} {names : List String}

theorem Change.size_forNames :
    (c.forNames names).size = (names.map fun name => (c.forName name).size).sum := by
  induction names with
  | nil => rfl
  | cons name rest ih =>
      simp only [Change.size, Change.forNames, List.flatMap_cons, List.length_append, List.map_cons,
        List.sum_cons] at ih ⊢
      omega

theorem mem_flatMap_filter_name {rs : List ResourceRecordSet} {r : ResourceRecordSet} :
    r ∈ (names.flatMap fun n => rs.filter (fun r => r.name == n)) ↔ r ∈ rs ∧ r.name ∈ names := by
  simp only [List.mem_flatMap, List.mem_filter, beq_iff_eq]
  constructor
  · rintro ⟨n, hn, hr, rfl⟩
    exact ⟨hr, hn⟩
  · rintro ⟨hr, hn⟩
    exact ⟨r.name, hn, hr, rfl⟩

/-- Of the parts about different names only one is about a given name. -/
theorem filter_name_flatMap (hnodup : names.Nodup) (rs : List ResourceRecordSet) (name : String) :
    (names.flatMap fun n => rs.filter (fun r => r.name == n)).filter (fun r => r.name == name)
      = if name ∈ names then rs.filter (fun r => r.name == name) else [] := by
  induction names with
  | nil => rfl
  | cons n rest ih =>
      obtain ⟨hnot, hrest⟩ := List.nodup_cons.1 hnodup
      rw [List.flatMap_cons, List.filter_append, ih hrest, List.filter_filter]
      by_cases hn : name = n
      · subst hn
        simp [hnot]
      · have hnone : rs.filter (fun r => r.name == name && r.name == n) = [] := by
          rw [List.filter_eq_nil_iff]
          intro r _ hr
          rw [Bool.and_eq_true, beq_iff_eq, beq_iff_eq] at hr
          exact hn (hr.1.symm.trans hr.2)
        simp [hnone, hn]

theorem Change.forName_forNames (hnodup : names.Nodup) (name : String) :
    (c.forNames names).forName name = if name ∈ names then c.forName name else {} := by
  have hadditions := filter_name_flatMap hnodup c.additions name
  have hdeletions := filter_name_flatMap hnodup c.deletions name
  simp only [Change.forName, Change.forNames, hadditions, hdeletions]
  split
  · rfl
  · rfl

theorem size_forName_pos : 0 < (c.forName name).size ↔ name ∈ c.names := by
  rw [mem_names]
  simp only [Change.size, Change.forName, Nat.add_pos_iff_pos_or_pos,
    List.length_pos_iff_exists_mem, List.mem_filter, beq_iff_eq]

theorem pairwise_names (c : Change) : c.names.Pairwise (· < ·) := by
  have hsorted : c.names.Pairwise (· ≤ ·) := List.pairwise_insertionSort _ _
  have hnodup : c.names.Nodup := (List.perm_insertionSort _ _).nodup_iff.2 (List.nodup_dedup _)
  exact hsorted.imp₂ (fun _ _ hle hne => lt_of_le_of_ne hle hne) hnodup

end

/-! ## What the loop has packed -/

/-- The batches so far, each with the names it is about. -/
structure Packed (change : Change) (batchSize : Nat) (visited : List String)
    (groups : List (List String)) (current : List String) (s : BatchState) : Prop where
  changes : s.changes = groups.map change.forNames
  currentChange : s.currentChange = change.forNames current
  names : groups.flatten ++ current
    = visited.filter (fun name => (change.forName name).size ≤ batchSize)
  total : s.totalChanges = (change.forNames current).size
  fits : s.totalChanges ≤ batchSize
  bounds : ∀ group ∈ groups,
    0 < (change.forNames group).size ∧ (change.forNames group).size ≤ batchSize

section
variable {change : Change} {batchSize : Nat} {visited current : List String}
  {groups : List (List String)} {s : BatchState}

theorem Change.forNames_append_singleton (name : String) :
    change.forNames (current ++ [name])
      = (change.forNames current).append (change.forName name) := by
  simp [Change.forNames, Change.append]

theorem size_forNames_append_singleton (name : String) :
    (change.forNames (current ++ [name])).size
      = (change.forNames current).size + (change.forName name).size := by
  simp [Change.size_forNames]

theorem Packed.batchStep (h : Packed change batchSize visited groups current s) (name : String) :
    ∃ groups' current', Packed change batchSize (visited ++ [name]) groups' current'
      (batchStep change batchSize s name) := by
  unfold Google.batchStep
  by_cases hlarge : (change.forName name).size > batchSize
  · -- the name is left out
    rw [if_pos hlarge]
    refine ⟨groups, current, h.changes, h.currentChange, ?_, h.total, h.fits, h.bounds⟩
    rw [h.names, List.filter_append]
    simp [Nat.not_le.2 hlarge]
  · have hsmall : (change.forName name).size ≤ batchSize := Nat.not_lt.1 hlarge
    have hnames : (visited ++ [name]).filter (fun n => (change.forName n).size ≤ batchSize)
        = groups.flatten ++ current ++ [name] := by
      rw [h.names, List.filter_append]
      simp [hsmall]
    rw [if_neg hlarge]
    by_cases hfull : s.totalChanges + (change.forName name).size > batchSize
    · -- the current batch is closed; it is not empty, since the name alone would fit
      simp only [if_pos hfull]
      refine ⟨groups ++ [current], [name], ?_, ?_, ?_, ?_, ?_, ?_⟩
      · simp [h.changes, h.currentChange]
      · simp [Change.forNames]
      · rw [hnames]
        simp
      · simp [Change.size_forNames]
      · simpa using hsmall
      · intro group hgroup
        rcases List.mem_append.1 hgroup with hold | hnew
        · exact h.bounds group hold
        · obtain rfl := List.mem_singleton.1 hnew
          have hfits := h.fits
          rw [h.total] at hfull hfits
          exact ⟨by omega, hfits⟩
    · simp only [if_neg hfull]
      refine ⟨groups, current ++ [name], h.changes, ?_, ?_, ?_, Nat.not_lt.1 hfull, h.bounds⟩
      · rw [Change.forNames_append_singleton, h.currentChange]
        rfl
      · rw [hnames, List.append_assoc]
      · rw [size_forNames_append_singleton, h.total]

theorem packed_foldl (names : List String) (h : Packed change batchSize visited groups current s) :
    ∃ groups' current', Packed change batchSize (visited ++ names) groups' current'
      (names.foldl (batchStep change batchSize) s) := by
  induction names generalizing visited groups current s with
  | nil => exact ⟨groups, current, by simpa using h⟩
  | cons name rest ih =>
      obtain ⟨groups', current', hstep⟩ := h.batchStep name
      obtain ⟨groups'', current'', hrest⟩ := ih hstep
      exact ⟨groups'', current'', by simpa using hrest⟩

/-- Each batch is about some of the names that are not too large, one after the other. -/
theorem exists_groups_batchChange (change : Change) (hpos : batchSize ≠ 0) :
    ∃ groups : List (List String), batchChange change batchSize = groups.map change.forNames ∧
      groups.flatten = change.names.filter (fun name => (change.forName name).size ≤ batchSize) ∧
      ∀ group ∈ groups,
        0 < (change.forNames group).size ∧ (change.forNames group).size ≤ batchSize := by
  have hinit : Packed change batchSize [] [] [] {} :=
    ⟨rfl, rfl, rfl, rfl, Nat.zero_le _, fun _ h => nomatch h⟩
  obtain ⟨groups, current, h⟩ := packed_foldl change.names hinit
  rw [List.nil_append] at h
  unfold batchChange
  rw [if_neg hpos]
  simp only
  split
  · rename_i htotal
    refine ⟨groups ++ [current], ?_, ?_, ?_⟩
    · simp [h.changes, h.currentChange]
    · simpa using h.names
    · intro group hgroup
      rcases List.mem_append.1 hgroup with hold | hnew
      · exact h.bounds group hold
      · obtain rfl := List.mem_singleton.1 hnew
        have hfits := h.fits
        rw [h.total] at htotal hfits
        exact ⟨htotal, hfits⟩
  · -- every name has changes, so an empty last batch is about no name
    rename_i htotal
    have hnone : current = [] := by
      by_contra hne
      obtain ⟨name, hname⟩ := List.exists_mem_of_ne_nil current hne
      have hmem : name ∈ change.names := by
        have hfilter : name ∈ groups.flatten ++ current := List.mem_append_right _ hname
        rw [h.names] at hfilter
        exact (List.mem_filter.1 hfilter).1
      have hle : (change.forName name).size ≤ (change.forNames current).size := by
        rw [Change.size_forNames]
        exact List.single_le_sum (fun _ _ => Nat.zero_le _) _ (List.mem_map.2 ⟨name, hname, rfl⟩)
      have hsize := size_forName_pos.2 hmem
      rw [h.total] at htotal
      omega
    refine ⟨groups, h.changes, ?_, h.bounds⟩
    rw [← h.names, hnone, List.append_nil]

end

/-! ## The partition -/

/-- The batches are a partition of a change by names. -/
structure Partitions (change : Change) (batchSize : Nat) (batches : List Change) : Prop where
  bounds : ∀ b ∈ batches, 0 < b.size ∧ b.size ≤ batchSize
  /-- a name that is not too large has all its changes in one batch, as the change has them -/
  together : ∀ name, 0 < (change.forName name).size → (change.forName name).size ≤ batchSize →
    ∃ front b back, batches = front ++ b :: back ∧ b.forName name = change.forName name ∧
      ∀ b' ∈ front ++ back, b'.forName name = {}
  /-- one that is too large is left out -/
  oversized : ∀ name, batchSize < (change.forName name).size → ∀ b ∈ batches, b.forName name = {}
  /-- nothing else occurs -/
  subset : ∀ b ∈ batches, b.additions ⊆ change.additions ∧ b.deletions ⊆ change.deletions
  increasing : batches.Pairwise fun b b' => ∀ r ∈ b.additions ++ b.deletions,
    ∀ r' ∈ b'.additions ++ b'.deletions, r.name < r'.name
  /-- also within a batch -/
  sorted : ∀ b ∈ batches, (b.additions.map (·.name)).Pairwise (· ≤ ·) ∧
    (b.deletions.map (·.name)).Pairwise (· ≤ ·)

section
variable {change : Change} {group : List String} {r : ResourceRecordSet}

theorem name_mem_of_mem_forNames
    (h : r ∈ (change.forNames group).additions ++ (change.forNames group).deletions) :
    r.name ∈ group := by
  rcases List.mem_append.1 h with h | h
  · exact (mem_flatMap_filter_name.1 h).2
  · exact (mem_flatMap_filter_name.1 h).2

theorem pairwise_name_flatMap (hgroup : group.Pairwise (· < ·)) (rs : List ResourceRecordSet) :
    ((group.flatMap fun n => rs.filter (fun r => r.name == n)).map (·.name)).Pairwise (· ≤ ·) := by
  rw [List.pairwise_map, List.pairwise_flatMap]
  refine ⟨?_, hgroup.imp ?_⟩
  · intro name _
    refine List.pairwise_of_forall_mem_list fun r hr r' hr' => ?_
    rw [List.mem_filter, beq_iff_eq] at hr hr'
    exact le_of_eq (hr.2.trans hr'.2.symm)
  · intro name name' hlt r hr r' hr'
    rw [List.mem_filter, beq_iff_eq] at hr hr'
    rw [hr.2, hr'.2]
    exact le_of_lt hlt

end

theorem batchChange_partitions (change : Change) (batchSize : Nat) (hpos : 1 ≤ batchSize) :
    Partitions change batchSize (batchChange change batchSize) := by
  obtain ⟨groups, hbatches, hnames, hbounds⟩ :=
    exists_groups_batchChange change (Nat.one_le_iff_ne_zero.1 hpos)
  obtain ⟨hsorted, hacross⟩ : (∀ group ∈ groups, group.Pairwise (· < ·)) ∧
      groups.Pairwise fun group group' => ∀ name ∈ group, ∀ name' ∈ group', name < name' := by
    rw [← List.pairwise_flatten, hnames]
    exact (pairwise_names change).filter _
  have hnodup : ∀ group ∈ groups, group.Nodup := fun group hgroup =>
    (hsorted group hgroup).imp fun hlt => ne_of_lt hlt
  have habsent : ∀ group ∈ groups, ∀ name, name ∉ group →
      (change.forNames group).forName name = {} := fun group hgroup name hname => by
    rw [Change.forName_forNames (hnodup group hgroup), if_neg hname]
  rw [hbatches]
  refine ⟨?_, ?_, ?_, ?_, ?_, ?_⟩
  · simpa using hbounds
  · intro name hname hfits
    have hmem : name ∈ groups.flatten := by
      rw [hnames]
      exact List.mem_filter.2 ⟨size_forName_pos.1 hname, decide_eq_true hfits⟩
    obtain ⟨group, hgroup, hname⟩ := List.mem_flatten.1 hmem
    obtain ⟨front, back, rfl⟩ := List.append_of_mem hgroup
    refine ⟨front.map change.forNames, change.forNames group, back.map change.forNames,
      by simp, ?_, ?_⟩
    · rw [Change.forName_forNames (hnodup group hgroup), if_pos hname]
    · -- the name is in no other group, since names increase from group to group
      obtain ⟨_, hback, hfront⟩ := List.pairwise_append.1 hacross
      rw [List.pairwise_cons] at hback
      rw [← List.map_append, List.forall_mem_map]
      intro group' hgroup'
      rcases List.mem_append.1 hgroup' with hbefore | hafter
      · refine habsent group' (List.mem_append_left _ hbefore) name fun h => ?_
        exact lt_irrefl name (hfront group' hbefore group List.mem_cons_self name h name hname)
      · refine habsent group' (List.mem_append_right _ (List.mem_cons_of_mem _ hafter)) name
          fun h => ?_
        exact lt_irrefl name (hback.1 group' hafter name hname name h)
  · intro name hlarge
    rw [List.forall_mem_map]
    intro group hgroup
    refine habsent group hgroup name fun hname => ?_
    have hmem : name ∈ groups.flatten := List.mem_flatten.2 ⟨group, hgroup, hname⟩
    rw [hnames, List.mem_filter, decide_eq_true_eq] at hmem
    exact absurd hmem.2 (Nat.not_le.2 hlarge)
  · rw [List.forall_mem_map]
    intro group _
    exact ⟨fun r hr => (mem_flatMap_filter_name.1 hr).1,
      fun r hr => (mem_flatMap_filter_name.1 hr).1⟩
  · rw [List.pairwise_map]
    refine hacross.imp fun hlt r hr r' hr' => ?_
    exact hlt r.name (name_mem_of_mem_forNames hr) r'.name (name_mem_of_mem_forNames hr')
  · rw [List.forall_mem_map]
    intro group hgroup
    exact ⟨pairwise_name_flatMap (hsorted group hgroup) _,
      pairwise_name_flatMap (hsorted group hgroup) _⟩

/-- The address `a` moves, `b` is added and `c` has more changes than a batch may have. -/
def movedAddress : Change where
  additions := [⟨"c.", 60, .A, ["1"], none⟩, ⟨"b.", 60, .A, ["2"], none⟩,
    ⟨"a.", 60, .A, ["3"], none⟩, ⟨"c.", 60, .CNAME, ["4"], none⟩, ⟨"c.", 60, .NS, ["5"], none⟩]
  deletions := [⟨"a.", 60, .A, ["6"], none⟩]

theorem batchChange_partitions_movedAddress :
    1 ≤ 2 ∧ Partitions movedAddress 2 (batchChange movedAddress 2) ∧
      (batchChange movedAddress 2).map Change.size = [2, 1] :=
  ⟨by decide, batchChange_partitions movedAddress 2 (by decide), by decide⟩

end MultiClusterGateway.Google
