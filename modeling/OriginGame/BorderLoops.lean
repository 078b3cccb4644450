import OriginGame.Border

namespace OriginGame

-- The line of an arc, whichever way it is passed.
def Arc.edge (a : Arc) : Arc :=
  match a.2 with
  | .left | .down => a.reverse
  | .up | .right => a

theorem Arc.edge_cases (a : Arc) : a.edge = a ∨ a.edge = a.reverse := by
  obtain ⟨p,d⟩ := a
  cases d
  · exact .inr rfl
  · exact .inl rfl
  · exact .inl rfl
  · exact .inr rfl

theorem Arc.edge_reverse (a : Arc) : a.reverse.edge = a.edge := by
  obtain ⟨p,d⟩ := a
  cases d <;> simp [Arc.edge,Arc.reverse,Arc.head,Direction.step,Direction.opposite]

theorem Arc.edge_upward (a : Arc) : a.edge.2 = .up ∨ a.edge.2 = .right := by
  obtain ⟨p,d⟩ := a
  cases d <;> simp [Arc.edge,Arc.reverse,Direction.opposite]

theorem Arc.edge_of_upward {a : Arc} (upward : a.2 = .up ∨ a.2 = .right) : a.edge = a := by
  obtain ⟨p,d⟩ := a
  cases d
  · simp at upward
  · rfl
  · rfl
  · simp at upward

theorem Arc.edge_eq {a b : Arc} (same : a.edge = b.edge) : a = b ∨ a = b.reverse := by
  rcases a.edge_cases with ahead | back <;> rcases b.edge_cases with aheadToo | backToo
  · exact .inl (by rw [← ahead,same,aheadToo])
  · exact .inr (by rw [← ahead,same,backToo])
  · exact .inr (by rw [← a.reverse_reverse,← back,same,aheadToo])
  · exact .inl (by rw [← a.reverse_reverse,← back,same,backToo,b.reverse_reverse])

theorem Arc.edge_ends (a : Arc) : (a.edge.1 = a.1 ∧ a.edge.head = a.head) ∨ (a.edge.1 = a.head ∧ a.edge.head = a.1) := by
  rcases a.edge_cases with ahead | back
  · rw [ahead]
    exact .inl ⟨rfl,rfl⟩
  · rw [back]
    exact .inr ⟨rfl,a.reverse_head⟩

namespace Border
variable {region : Cell → Bool} {p : Int × Int} {a b : Arc} {d e f : Direction} {k : Nat}

theorem border_edge (a : Arc) : border region a.edge = border region a := by
  rcases a.edge_cases with ahead | back
  · rw [ahead]
  · rw [back,border_reverse]

-- Off the contacts two lines of the border meet.
theorem two_ways (free : ¬ Contact region p) (on : border region (p,d) = true) (onToo : border region (p,e) = true) (apart : d ≠ e)
    (third : border region (p,f) = true) : f = d ∨ f = e := by
  have parity := @border_parity region p d
  rw [contact_iff d,on] at free
  rw [on] at parity
  by_contra others
  push Not at others
  have ways := d.cases_opposite e
  have waysToo := d.cases_opposite f
  revert free parity
  rcases ways with rfl | rfl | rfl | rfl
  · rw [onToo]
    rcases waysToo with rfl | rfl | rfl | rfl
    · exact absurd rfl others.2
    · exact absurd rfl others.1
    · rw [third]
      cases border region (p,d.opposite) <;> simp
    · rw [third]
      cases border region (p,d.clockwise) <;> simp
  · exact absurd rfl apart
  · rw [onToo]
    rcases waysToo with rfl | rfl | rfl | rfl
    · rw [third]
      cases border region (p,d.opposite) <;> simp
    · exact absurd rfl others.1
    · exact absurd rfl others.2
    · rw [third]
      cases border region (p,d.counter) <;> simp
  · rw [onToo]
    rcases waysToo with rfl | rfl | rfl | rfl
    · rw [third]
      cases border region (p,d.clockwise) <;> simp
    · exact absurd rfl others.1
    · rw [third]
      cases border region (p,d.counter) <;> simp
    · exact absurd rfl others.2

-- Of the two, one has the region on its left.
theorem source_unique (free : ¬ Contact region a.1) (on : border region a = true) (onToo : border region b = true) (source : a.1 = b.1)
    (side : region (leftCell a.1 a.2) = region (leftCell b.1 b.2)) : a = b := by
  obtain ⟨p,d⟩ := a
  obtain ⟨q,e⟩ := b
  dsimp only at source
  subst source
  by_contra apart
  have directions : d ≠ e := fun same => apart (by rw [same])
  rw [contact_iff d] at free
  rw [border_counter,border_straight,border_clockwise,border_opposite] at free
  rw [border_straight] at on onToo
  dsimp only at side
  rcases d.cases_opposite e with rfl | rfl | rfl | rfl
  · rw [Direction.counter_clockwise] at onToo
    rw [← side] at onToo
    simp at onToo
  · exact directions rfl
  · rw [side] at on
    simp at on
  · rw [Direction.opposite_clockwise] at onToo
    rw [side] at on free
    revert on onToo free
    cases region (leftCell p d.opposite) <;> cases region (leftCell p d.clockwise) <;> cases region (leftCell p d.counter) <;> simp

-- So many arcs from the first on.
def lap (region : Cell → Bool) (a : Arc) (n : Nat) : List Arc := (List.range n).map (fun j => (follow region)^[j] a)

theorem mem_lap {n : Nat} : b ∈ lap region a n ↔ ∃ j < n, (follow region)^[j] a = b := by
  rw [lap,List.mem_map]
  simp only [List.mem_range]

theorem lap_cons (region : Cell → Bool) (a : Arc) (n : Nat) :
    lap region a (n+1) = a::(List.range n).map (fun j => (follow region)^[j+1] a) := by
  unfold lap
  rw [List.range_succ_eq_map,List.map_cons,List.map_map]
  rfl

theorem lap_succ (region : Cell → Bool) (a : Arc) (n : Nat) : lap region a (n+1) = lap region a n++[(follow region)^[n] a] := by
  unfold lap
  rw [List.range_succ,List.map_append]
  rfl

theorem lap_side (on : b ∈ lap region a k) : region (leftCell b.1 b.2) = region (leftCell a.1 a.2) := by
  obtain ⟨j,-,rfl⟩ := mem_lap.mp on
  clear on
  induction j with
  | zero => rfl
  | succ j ih => rw [Function.iterate_succ_apply',@follow_side region,ih]

theorem orbit_inj (on : border region a = true) (i j : Nat) (same : (follow region)^[i] a = (follow region)^[i+j] a) :
    a = (follow region)^[j] a := by
  induction i with
  | zero => rwa [Nat.zero_add] at same
  | succ i ih =>
    rw [Nat.succ_add,Function.iterate_succ_apply',Function.iterate_succ_apply'] at same
    exact ih (follow_inj (orbit_border on i) (orbit_border on _) same)

namespace Loop

theorem period (free : ∀ q, ¬ Contact region q) (loop : Loop region p d e k) : (follow region)^[k+3] (p,d) = (p,d) := by
  have side := lap_side (mem_lap.mpr (⟨k+3,Nat.lt_succ_self _,rfl⟩ : ∃ j < k+4, (follow region)^[j] (p,d) = _))
  have on := orbit_border loop.on (k+3)
  have source : ((follow region)^[k+3] (p,d)).1 = p := by
    rw [Function.iterate_succ_apply',loop.back]
    exact Direction.step_opposite _ _
  exact source_unique (free _) on loop.on source side

theorem sources_nodup (free : ∀ q, ¬ Contact region q) (loop : Loop region p d e k) : ((lap region (p,d) (k+3)).map Prod.fst).Nodup := by
  unfold lap
  rw [List.map_map]
  refine List.Nodup.map_on ?_ List.nodup_range
  have before (i j : Nat) (less : i < j) (within : j < k+3) : ((follow region)^[i] (p,d)).1 ≠ ((follow region)^[j] (p,d)).1 := by
    intro source
    have sideOne := lap_side (mem_lap.mpr (⟨i,by omega,rfl⟩ : ∃ i' < k+3, (follow region)^[i'] (p,d) = _))
    have sideTwo := lap_side (mem_lap.mpr (⟨j,by omega,rfl⟩ : ∃ j' < k+3, (follow region)^[j'] (p,d) = _))
    have same := source_unique (free _) (orbit_border loop.on i) (orbit_border loop.on j) source (sideOne.trans sideTwo.symm)
    obtain ⟨m,rfl⟩ := Nat.exists_eq_add_of_lt less
    rw [Nat.add_assoc] at same
    have back := orbit_inj loop.on i (m+1) same
    rw [Function.iterate_succ_apply'] at back
    exact loop.away m (by omega) (congrArg Prod.fst back).symm
  intro i iWithin j jWithin same
  rw [List.mem_range] at iWithin jWithin
  rcases Nat.lt_trichotomy i j with less | equal | more
  · exact absurd same (before i j less jWithin)
  · exact equal
  · exact absurd same.symm (before j i more iWithin)

-- Each arc has one after it and one before it.
theorem follow_mem (free : ∀ q, ¬ Contact region q) (loop : Loop region p d e k) (mem : a ∈ lap region (p,d) (k+3)) :
    follow region a ∈ lap region (p,d) (k+3) := by
  obtain ⟨j,within,rfl⟩ := mem_lap.mp mem
  rw [← Function.iterate_succ_apply' (follow region)]
  by_cases last : j = k+2
  · rw [last,loop.period free]
    exact mem_lap.mpr ⟨0,by omega,rfl⟩
  · exact mem_lap.mpr ⟨j+1,by omega,rfl⟩

theorem follow_to (free : ∀ q, ¬ Contact region q) (loop : Loop region p d e k) (mem : a ∈ lap region (p,d) (k+3)) :
    ∃ b ∈ lap region (p,d) (k+3), follow region b = a := by
  obtain ⟨j,within,rfl⟩ := mem_lap.mp mem
  cases j with
  | zero =>
    refine ⟨(follow region)^[k+2] (p,d),mem_lap.mpr ⟨k+2,by omega,rfl⟩,?_⟩
    rw [← Function.iterate_succ_apply' (follow region),loop.period free]
    rfl
  | succ j => exact ⟨(follow region)^[j] (p,d),mem_lap.mpr ⟨j,by omega,rfl⟩,(Function.iterate_succ_apply' _ _ _).symm⟩

-- No other border is at its points.
theorem all_edges (free : ∀ q, ¬ Contact region q) (loop : Loop region p d e k) (mem : a ∈ lap region (p,d) (k+3))
    (on : border region (a.1,f) = true) : Arc.edge (a.1,f) ∈ (lap region (p,d) (k+3)).map Arc.edge := by
  obtain ⟨b,memToo,rfl⟩ := loop.follow_to free mem
  obtain ⟨j,_,rfl⟩ := mem_lap.mp memToo
  have onToo := orbit_border loop.on j
  rcases two_ways (free _) (follow_border onToo) (Border.back_border onToo) (follow_ne_opposite _) on with rfl | rfl
  · exact List.mem_map_of_mem mem
  · refine List.mem_map.mpr ⟨_,memToo,?_⟩
    exact (Arc.edge_reverse _).symm

theorem reaches {used : Finset (Int × Int)} (free : ∀ q, ¬ Contact region q) (loop : Loop region p d e k)
    (spreads : ∀ a, border region a = true → a.1 ∈ used → a.head ∈ used) (mem : a ∈ lap region (p,d) (k+3)) (there : a.1 ∈ used) : p ∈ used := by
  obtain ⟨j,within,rfl⟩ := mem_lap.mp mem
  have onwards (n : Nat) : ((follow region)^[j+n] (p,d)).1 ∈ used := by
    induction n with
    | zero => exact there
    | succ n ih =>
      rw [← Nat.add_assoc,Function.iterate_succ_apply']
      exact spreads _ (orbit_border loop.on _) ih
  have closed := onwards (k+3-j)
  rwa [Nat.add_sub_cancel' within.le,loop.period free] at closed

theorem edges_nodup (free : ∀ q, ¬ Contact region q) (loop : Loop region p d e k) : ((lap region (p,d) (k+3)).map Arc.edge).Nodup := by
  refine List.Nodup.map_on ?_ (List.Nodup.of_map _ (loop.sources_nodup free))
  intro a mem b memToo same
  rcases Arc.edge_eq same with equal | reversed
  · exact equal
  · have sides := (lap_side mem).trans (lap_side memToo).symm
    obtain ⟨j,_,on⟩ := mem_lap.mp memToo
    have onToo := orbit_border loop.on j
    rw [on] at onToo
    rw [reversed,leftCell_reverse] at sides
    unfold border at onToo
    rw [sides] at onToo
    simp at onToo

theorem trail (free : ∀ q, ¬ Contact region q) (loop : Loop region p d e k) :
    Trail (avoid region p) (p,d) ((List.range (k+1)).map (fun j => (follow region)^[j+1] (p,d))) := by
  have rest (n : Nat) (within : n ≤ k+1) : Trail (avoid region p) ((follow region)^[k+1-n] (p,d))
      ((List.range n).map (fun j => (follow region)^[k+1-n+j+1] (p,d))) := by
    induction n with
    | zero => exact .stops (loop.stops (free _))
    | succ n ih =>
      have one := loop.goesOn (j:=k-n) (by omega)
      have later := ih (by omega)
      rw [show k+1-n = k-n+1 by omega] at later
      rw [show k+1-(n+1) = k-n by omega,List.range_succ_eq_map,List.map_cons,List.map_map]
      refine .goesOn one ?_
      refine (congrArg (Trail _ _) (List.map_congr_left (fun j _ => ?_))).mp later
      dsimp only [Function.comp]
      rw [show k-n+1+j+1 = k-n+(j+1)+1 by omega]
  have whole := rest (k+1) (le_refl _)
  rw [Nat.sub_self] at whole
  simp only [Nat.zero_add] at whole
  exact whole

end Loop

theorem trail_unique {α : Type} {next : α → Option α} {a : α} {path other : List α} (one : Trail next a path) (two : Trail next a other) :
    path = other := by
  induction one generalizing other with
  | stops last =>
    cases two with
    | stops => rfl
    | goesOn more _ => cases last.symm.trans more
  | goesOn more _ ih =>
    cases two with
    | stops last => cases last.symm.trans more
    | goesOn moreToo later =>
      cases more.symm.trans moreToo
      rw [ih later]

end Border
end OriginGame
