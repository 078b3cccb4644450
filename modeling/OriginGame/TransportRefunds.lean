import OriginGame.TransportLogic
import Mathlib.Data.List.Perm.Subperm
import Mathlib.Algebra.Order.BigOperators.Group.List
import Mathlib.Algebra.Order.Ring.Int

namespace OriginGame.TransportLogic

def of (made : Nat) (entries : List Entry) : List Entry := entries.filter (fun entry => entry.made = made)

def ResourceInfo.amount (currency : CurrencyType) (resource : ResourceInfo) : Int := if resource.resourceTypeId = some currency then resource.load else 0

def total (currency : CurrencyType) (entries : List Entry) : Int := (entries.map (fun entry => entry.resource.amount currency)).sum

section logs
variable {made other : Nat} {entries : List Entry}

theorem of_append (made : Nat) (entries more : List Entry) : of made (entries++more) = of made entries++of made more := List.filter_append _ _

theorem of_entry (made : Nat) (resources : List ResourceInfo) (position : Nat) : of made [entry made resources position] = [entry made resources position] := by
  simp [of,entry]

theorem of_other (other : made ≠ made') (resources : List ResourceInfo) (position : Nat) : of made [entry made' resources position] = [] := by
  simp [of,entry,other.symm]

theorem total_append (currency : CurrencyType) (entries more : List Entry) : total currency (entries++more) = total currency entries+total currency more := by
  rw [total,List.map_append,List.sum_append]
  rfl

theorem addCurrency_amount (balance : CurrencyType → Int) (resource : ResourceInfo) (sign : Int) (currency : CurrencyType) :
    addCurrency balance resource sign currency = balance currency+sign*resource.amount currency := by
  obtain ⟨type,load⟩ := resource
  unfold addCurrency ResourceInfo.amount
  cases type with
  | none => simp
  | some kind =>
    by_cases same : currency = kind
    · subst same
      simp
    · have differs : some kind ≠ some currency := fun equal => same (Option.some.inj equal).symm
      rw [Option.elim_some,Function.update_of_ne same,if_neg differs,mul_zero,add_zero]

end logs

-- The balances are what was deducted and credited.
def Logged (balance : CurrencyType → Int) (s : State) : Prop :=
  ∀ currency, s.balance currency = balance currency-total currency s.deducts+total currency s.credits

theorem enter_logged {balance : CurrencyType → Int} {s : State} (request : Request) (logged : Logged balance s) : Logged balance (enter request s).1 := by
  cases request <;> exact logged

theorem resume_logged {balance : CurrencyType → Int} {s : State} (added : Bool) (handler : Handler) (logged : Logged balance s) :
    Logged balance (resume added handler s).1 := by
  cases handler with
  | create made index tax resources todo =>
    cases todo with
    | nil =>
      simp only [resume]
      split
      · exact logged
      · exact logged
    | cons position todo =>
      intro currency
      have before := logged currency
      simp only [resume,total_append,addCurrency_amount,before]
      simp only [total,List.map_cons,List.map_nil,List.sum_cons,List.sum_nil]
      omega
  | back index found todo =>
    rcases found with _ | ⟨made,resources⟩
    · exact logged
    · cases todo with
      | nil => exact logged
      | cons position todo =>
        intro currency
        have before := logged currency
        simp only [resume,total_append,addCurrency_amount,before]
        simp only [total,List.map_cons,List.map_nil,List.sum_cons,List.sum_nil]
        omega

theorem run_logged {balance : CurrencyType → Int} {start last : Service State Handler} (path : Runs Acts start events last)
    (logged : Logged balance start.shared) : Logged balance last.shared := by
  induction path with
  | done => exact logged
  | more step _ ih =>
    apply ih
    cases step with
    | call => exact enter_logged _ logged
    | resume => exact resume_logged _ _ logged

theorem balance_logged {balance : CurrencyType → Int} {events : List (Event Request Handler Bool)} {last : Service State Handler}
    (path : Runs Acts (initial balance) events last) : Logged balance last.shared :=
  run_logged path (fun currency => by simp [initial,total])

def Handler.items : Handler → List Nat
  | .create made _ _ _ _ => [made]
  | .back _ (some (made,_)) _ => [made]
  | .back _ none _ => []

-- Where transports of the call may be, and what of its resources was deducted and credited.
structure Log (s : State) (made index : Nat) (resources : List ResourceInfo) (credited deducted : List Nat) : Prop where
  call : s.made[made]? = some (index,resources)
  credits : of made s.credits = credited.map (entry made resources)
  deducts : of made s.deducts = deducted.map (entry made resources)
  place : ∀ {j transport}, s.transports.lookup j = some transport → transport.made = made → j = index ∧ transport.allResourceInfo = resources

def Away (s : State) (made : Nat) : Prop := ∀ {j transport}, s.transports.lookup j = some transport → transport.made ≠ made

def all (resources : List ResourceInfo) : List Nat := List.range resources.length

-- Deducted in full; as long as there is a record nothing is credited.
def Settled (s : State) (made : Nat) : Prop :=
  (s.made[made]? = none ∧ of made s.credits = [] ∧ of made s.deducts = [] ∧ Away s made) ∨
  ∃ index resources credited deducted, Log s made index resources credited deducted ∧ deducted.Perm (all resources) ∧
    credited.Subperm (all resources) ∧ (credited = [] ∨ Away s made)

def Relies (s : State) : Handler → Prop
  | .create made index _ resources todo => ∃ deducted, Log s made index resources [] deducted ∧ (deducted++todo).Perm (all resources) ∧ Away s made
  | .back index (some (made,resources)) todo => ∃ credited deducted, Log s made index resources credited deducted ∧
      deducted.Perm (all resources) ∧ (credited++todo).Subperm (all resources)
  | .back _ none _ => True

-- A step that concerns other transports.
structure Beside (before after : State) (made : Nat) : Prop where
  call : after.made[made]? = before.made[made]?
  credits : of made after.credits = of made before.credits
  deducts : of made after.deducts = of made before.deducts
  transports : ∀ {j transport}, after.transports.lookup j = some transport → transport.made = made →
    ∃ old, before.transports.lookup j = some old ∧ old.made = made ∧ old.allResourceInfo = transport.allResourceInfo

section beside
variable {s t : State} {made : Nat}

theorem Beside.away (beside : Beside s t made) (away : Away s made) : Away t made := by
  intro j transport found same
  obtain ⟨old,there,own,_⟩ := beside.transports found same
  exact away there own

theorem Beside.log {index : Nat} {resources : List ResourceInfo} {credited deducted : List Nat} (beside : Beside s t made)
    (log : Log s made index resources credited deducted) : Log t made index resources credited deducted := by
  refine ⟨beside.call.trans log.call,beside.credits.trans log.credits,beside.deducts.trans log.deducts,fun found same => ?_⟩
  obtain ⟨old,there,own,resources⟩ := beside.transports found same
  obtain ⟨place,kept⟩ := log.place there own
  exact ⟨place,resources.symm.trans kept⟩

theorem Beside.settled (beside : Beside s t made) (settled : Settled s made) : Settled t made := by
  rcases settled with ⟨call,credits,deducts,away⟩ | ⟨index,resources,credited,deducted,log,every,part,once⟩
  · exact .inl ⟨beside.call.trans call,beside.credits.trans credits,beside.deducts.trans deducts,beside.away away⟩
  · exact .inr ⟨index,resources,credited,deducted,beside.log log,every,part,once.imp id beside.away⟩

theorem Beside.relies {handler : Handler} (beside : ∀ made ∈ handler.items, Beside s t made) (relies : Relies s handler) : Relies t handler := by
  match handler,relies with
  | .create made _ _ _ _,⟨deducted,log,every,away⟩ =>
    have own := beside made (List.mem_singleton.mpr rfl)
    exact ⟨deducted,own.log log,every,own.away away⟩
  | .back _ (some (made,_)) _,⟨credited,deducted,log,every,part⟩ =>
    exact ⟨credited,deducted,(beside made (List.mem_singleton.mpr rfl)).log log,every,part⟩
  | .back _ none _,_ => exact trivial

theorem enter_beside {request : Request} (other : ∀ next ∈ (enter request s).2, made ∉ next.items) : Beside s (enter request s).1 made := by
  cases request with
  | createTransport order index tax resources =>
    have apart : made ≠ s.made.length := fun same => other _ rfl (List.mem_singleton.mpr same)
    refine ⟨?_,rfl,rfl,fun found same => ⟨_,found,same,rfl⟩⟩
    simp only [enter]
    rcases Nat.lt_or_gt_of_ne apart with before | after
    · exact List.getElem?_append_left before
    · rw [List.getElem?_eq_none (by simpa using Nat.succ_le_of_lt after),List.getElem?_eq_none (Nat.le_of_lt after)]
  | marchBackCity => exact ⟨rfl,rfl,rfl,fun found same => ⟨_,found,same,rfl⟩⟩
  | setStatus index transportStatus =>
    refine ⟨rfl,rfl,rfl,fun {j transport} found same => ?_⟩
    change (s.transports.modify index _).lookup j = some transport at found
    rw [Table.lookup_modify] at found
    split at found
    next here =>
      subst here
      obtain ⟨old,there,rfl⟩ := Option.map_eq_some_iff.mp found
      exact ⟨old,there,same,rfl⟩
    next => exact ⟨transport,found,same,rfl⟩

theorem resume_beside {handler : Handler} (added : Bool) (other : made ∉ handler.items) : Beside s (resume added handler s).1 made := by
  have untouched : Beside s s made := ⟨rfl,rfl,rfl,fun found same => ⟨_,found,same,rfl⟩⟩
  have erased (index : Nat) : Beside s {s with transports:=s.transports.erase index} made :=
    ⟨rfl,rfl,rfl,fun found same => ⟨_,(Table.found_erase found).2,same,rfl⟩⟩
  match handler with
  | .create own index tax resources [] =>
    have apart : made ≠ own := fun same => other (List.mem_singleton.mpr same)
    simp only [resume]
    split
    · refine ⟨rfl,rfl,rfl,fun {j transport} found same => ?_⟩
      rcases Table.found_insert found with ⟨rfl,rfl⟩ | ⟨_,there⟩
      · exact absurd same.symm apart
      · exact ⟨transport,there,same,rfl⟩
    · exact untouched
  | .create own index tax resources (position::todo) =>
    have apart : made ≠ own := fun same => other (List.mem_singleton.mpr same)
    refine ⟨rfl,rfl,?_,untouched.transports⟩
    simp only [resume,of_append,of_other apart,List.append_nil]
  | .back index (some (own,resources)) (position::todo) =>
    have apart : made ≠ own := fun same => other (List.mem_singleton.mpr same)
    refine ⟨rfl,?_,rfl,untouched.transports⟩
    simp only [resume,of_append,of_other apart,List.append_nil]
  | .back index (some (own,resources)) [] => exact erased index
  | .back index none todo => exact erased index

end beside

section calls
variable {s : State} {made index : Nat} {resources : List ResourceInfo} {credited deducted : List Nat}

theorem Log.deduct (log : Log s made index resources credited deducted) (position : Nat) (balance : CurrencyType → Int) :
    Log {s with balance:=balance, deducts:=s.deducts++[entry made resources position]} made index resources credited (deducted++[position]) := by
  refine ⟨log.call,log.credits,?_,log.place⟩
  change of made (s.deducts++[entry made resources position]) = _
  rw [of_append,of_entry,log.deducts,List.map_append]
  rfl

theorem Log.credit (log : Log s made index resources credited deducted) (position : Nat) (balance : CurrencyType → Int) :
    Log {s with balance:=balance, credits:=s.credits++[entry made resources position]} made index resources (credited++[position]) deducted := by
  refine ⟨log.call,?_,log.deducts,log.place⟩
  change of made (s.credits++[entry made resources position]) = _
  rw [of_append,of_entry,log.credits,List.map_append]
  rfl

theorem positions_all (order : Order Nat) (resources : List ResourceInfo) : (positions order resources).Perm (all resources) := order.perm _

theorem entered_relies {request : Request} {next : Handler} (begins : next ∈ (enter request s).2) (settled : ∀ made ∈ next.items, Settled s made) :
    Relies (enter request s).1 next := by
  cases request with
  | createTransport order index tax resources =>
    cases begins
    rcases settled s.made.length (List.mem_singleton.mpr rfl) with ⟨_,credits,deducts,away⟩ | ⟨_,_,_,_,log,_⟩
    · refine ⟨[],⟨?_,credits,deducts,fun found same => absurd same (away found)⟩,positions_all order resources,away⟩
      exact List.getElem?_concat_length
    · have called := log.call
      rw [List.getElem?_eq_none (Nat.le_refl _)] at called
      cases called
  | marchBackCity order index =>
    cases begins
    cases found : s.transports.lookup index with
    | none => exact trivial
    | some transport =>
      rw [found] at settled
      rcases settled transport.made (List.mem_singleton.mpr rfl) with ⟨_,_,_,away⟩ | ⟨_,_,credited,deducted,log,every,_,once⟩
      · exact absurd rfl (away found)
      · obtain ⟨rfl,rfl⟩ := log.place found rfl
        have nothing : credited = [] := once.resolve_right (fun away => away found rfl)
        subst nothing
        refine ⟨[],deducted,log,every,?_⟩
        rw [List.nil_append]
        split
        · exact (positions_all order _).subperm
        · exact List.nil_subperm
  | setStatus => cases begins

theorem resume_items {handler next : Handler} {added : Bool} (goesOn : next ∈ (resume added handler s).2) : next.items = handler.items := by
  match handler with
  | .create _ _ _ _ [] => cases goesOn
  | .create _ _ _ _ (_::_) =>
    cases goesOn
    rfl
  | .back _ (some _) [] => cases goesOn
  | .back _ (some _) (_::_) =>
    cases goesOn
    rfl
  | .back _ none _ => cases goesOn

theorem resumed_relies {handler next : Handler} {added : Bool} (relies : Relies s handler) (goesOn : next ∈ (resume added handler s).2) :
    Relies (resume added handler s).1 next := by
  match handler,relies with
  | .create made index tax resources [],_ => cases goesOn
  | .create made index tax resources (position::todo),⟨deducted,log,every,away⟩ =>
    cases goesOn
    refine ⟨deducted++[position],log.deduct position _,?_,away⟩
    rw [List.append_assoc]
    exact every
  | .back index (some (made,resources)) [],_ => cases goesOn
  | .back index (some (made,resources)) (position::todo),⟨credited,deducted,log,every,part⟩ =>
    cases goesOn
    refine ⟨credited++[position],deducted,log.credit position _,every,?_⟩
    rw [List.append_assoc]
    exact part
  | .back index none todo,_ => cases goesOn

theorem resumed_settled {handler : Handler} {added : Bool} (relies : Relies s handler) (own : made ∈ handler.items)
    (over_ : ∀ next ∈ (resume added handler s).2, made ∉ next.items) : Settled (resume added handler s).1 made := by
  match handler,relies with
  | .create made index tax resources [],⟨deducted,log,every,away⟩ =>
    cases List.mem_singleton.mp own
    rw [List.append_nil] at every
    refine .inr ⟨index,resources,[],deducted,?_,every,List.nil_subperm,.inl rfl⟩
    simp only [resume]
    split
    · refine ⟨log.call,log.credits,log.deducts,fun found same => ?_⟩
      rcases Table.found_insert found with ⟨rfl,rfl⟩ | ⟨_,there⟩
      · exact ⟨rfl,rfl⟩
      · exact absurd same (away there)
    · exact log
  | .create made index tax resources (position::todo),_ => exact absurd own (over_ (.create made index tax resources todo) rfl)
  | .back index (some (made,resources)) [],⟨credited,deducted,log,every,part⟩ =>
    cases List.mem_singleton.mp own
    rw [List.append_nil] at part
    refine .inr ⟨index,resources,credited,deducted,?_,every,part,.inr ?_⟩
    · exact ⟨log.call,log.credits,log.deducts,fun found same => log.place (Table.found_erase found).2 same⟩
    · intro j transport found same
      obtain ⟨elsewhere,there⟩ := Table.found_erase found
      exact elsewhere (log.place there same).1
  | .back index (some (made,resources)) (position::todo),_ => exact absurd own (over_ (.back index (some (made,resources)) todo) rfl)
  | .back index none todo,_ => cases own

end calls

theorem keeps : KeepsItems enter resume (fun _ _ => True) Handler.items Settled Relies where
  shrinks s handler added next goesOn := by
    rw [resume_items goesOn]
    exact fun _ mem => mem
  entered s request _ next begins settled := entered_relies begins settled
  settled_entered s request made _ settled free := (enter_beside free).settled settled
  beside_entered s request other _ relies apart :=
    Beside.relies (fun made mine => enter_beside (fun next begins there => apart next begins made there mine)) relies
  resumed s handler added relies next goesOn := resumed_relies relies goesOn
  settled_resumed s handler added made relies own over_ := by
    by_cases mine : made ∈ handler.items
    · exact resumed_settled relies mine over_
    · exact (resume_beside added mine).settled (own.resolve_left mine)
  beside_resumed s handler added other _ beside apart :=
    Beside.relies (fun made mine => resume_beside added (fun there => apart made there mine)) beside

-- What was credited is part of what was deducted.
theorem Log.part {s : State} {credited deducted : List Nat} (log : Log s made index resources credited deducted) (part : credited.Subperm deducted)
    (within : deducted.Subperm (all resources)) :
    ((of made s.credits).map Entry.position).Nodup ∧ (∀ entry ∈ of made s.credits, resources[entry.position]? = some entry.resource) ∧
    ((∀ resource ∈ resources, 0 ≤ resource.load) → ∀ currency, total currency (of made s.credits) ≤ total currency (of made s.deducts)) := by
  obtain ⟨some_,same,fewer⟩ := part.trans within
  have distinct : credited.Nodup := same.nodup_iff.mp (fewer.nodup List.nodup_range)
  have inside (position : Nat) (mem : position ∈ credited) : position < resources.length :=
    List.mem_range.mp ((part.trans within).subset mem)
  rw [log.credits,log.deducts]
  refine ⟨?_,fun credit mem => ?_,fun loads currency => ?_⟩
  · rw [List.map_map]
    exact (List.map_id _).symm ▸ distinct
  · obtain ⟨position,there,rfl⟩ := List.mem_map.mp mem
    rw [entry,List.getD_eq_getElem?_getD,List.getElem?_eq_getElem (inside position there),Option.getD_some]
  · have least (position : Nat) : 0 ≤ (entry made resources position).resource.amount currency := by
      unfold ResourceInfo.amount
      split
      · change 0 ≤ (resources.getD position ⟨none,0⟩).load
        rw [List.getD_eq_getElem?_getD]
        cases found : resources[position]? with
        | none => exact Int.le_refl 0
        | some resource => exact loads resource (List.mem_of_getElem? found)
      · exact Int.le_refl 0
    obtain ⟨some_,same,fewer⟩ := part
    unfold total
    rw [← (((same.map (entry made resources)).map _).sum_eq)]
    refine ((fewer.map (entry made resources)).map _).sum_le_sum (fun amount mem => ?_)
    obtain ⟨each,there,rfl⟩ := List.mem_map.mp mem
    obtain ⟨position,_,rfl⟩ := List.mem_map.mp there
    exact least position

theorem refunded_once {balance : CurrencyType → Int} {events : List (Event Request Handler Bool)} {last : Service State Handler}
    (path : Runs (Guarded Acts (BeginsFree enter Handler.items)) (initial balance) events last) {made index : Nat} {resources : List ResourceInfo}
    (call : last.shared.made[made]? = some (index,resources)) :
    ((of made last.shared.credits).map Entry.position).Nodup ∧
    (∀ entry ∈ of made last.shared.credits, resources[entry.position]? = some entry.resource) ∧
    ((∀ resource ∈ resources, 0 ≤ resource.load) → ∀ currency,
      total currency (of made last.shared.credits) ≤ total currency (of made last.shared.deducts)) := by
  have start : HoldingItems Handler.items Settled Relies (initial balance) :=
    ⟨.nil,fun _ mem => (List.not_mem_nil mem).elim,fun _ _ => .inl ⟨rfl,rfl,rfl,fun found => nomatch found⟩⟩
  have holds : HoldingItems Handler.items Settled Relies last := by
    refine Runs.invariant (fun before event after holds acts => ?_) path start
    obtain ⟨step,free⟩ := acts
    cases step with
    | call => exact keeps.begins free trivial holds
    | resume => exact keeps.goesOn holds
  obtain ⟨_,each,rest⟩ := holds
  by_cases held : ∃ handler ∈ last.waiting, made ∈ handler.items
  · obtain ⟨handler,there,mine⟩ := held
    have relies := each handler there
    match handler,relies with
    | .create own _ tax _ todo,⟨deducted,log,every,_⟩ =>
      cases List.mem_singleton.mp mine
      cases log.call.symm.trans call
      exact log.part List.nil_subperm ((List.sublist_append_left _ _).subperm.trans every.subperm)
    | .back _ (some (own,_)) todo,⟨credited,deducted,log,every,part⟩ =>
      cases List.mem_singleton.mp mine
      cases log.call.symm.trans call
      exact log.part ((List.sublist_append_left _ _).subperm.trans (part.trans every.symm.subperm)) every.subperm
    | .back _ none _,_ => cases mine
  · rcases rest made (fun handler there mine => held ⟨handler,there,mine⟩) with ⟨none_,_⟩ | ⟨_,_,credited,deducted,log,every,part,_⟩
    · rw [none_] at call
      cases call
    · cases log.call.symm.trans call
      exact log.part (part.trans every.symm.subperm) every.subperm

section cart
-- Food and wood are loaded, the cart comes back, and with it the call of a login.
def loaded : List ResourceInfo := [⟨some .food,100⟩,⟨some .wood,50⟩]

def departs : List (Choice Request Bool) :=
  [.call (.createTransport .stored 1 0 loaded),.resume 0 true,.resume 0 true,.resume 0 true]

theorem cart_refunded : ∃ events last, Runs (Guarded Acts (BeginsFree enter Handler.items)) (initial (fun _ => 1000)) events last ∧
    (of 0 last.shared.credits).map Entry.position = [0,1] ∧ ((of 0 last.shared.credits).map Entry.position).Nodup ∧
    total .food (of 0 last.shared.credits) ≤ total .food (of 0 last.shared.deducts) := by
  have reached : ∃ events last, Runs (Guarded Acts (BeginsFree enter Handler.items)) (initial (fun _ => 1000)) events last ∧
      last.shared.made[0]? = some (1,loaded) ∧ (of 0 last.shared.credits).map Entry.position = [0,1] :=
    playIn_reaches _ (departs++[.call (.marchBackCity .stored 1),.resume 0 true,.resume 0 true,.resume 0 true,.call (.marchBackCity .stored 1),
      .resume 0 true]) _ _ (by decide)
  obtain ⟨events,last,path,call,credited⟩ := reached
  obtain ⟨once,_,least⟩ := refunded_once path call
  exact ⟨events,last,path,credited,once,least (by decide) .food⟩

theorem cart_refunded_twice : ∃ events last, Runs Acts (initial (fun _ => 1000)) events last ∧ last.shared.made[0]? = some (1,loaded) ∧
    last.waiting = [] ∧ ¬ ((of 0 last.shared.credits).map Entry.position).Nodup ∧
    total .food (of 0 last.shared.deducts) < total .food (of 0 last.shared.credits) :=
  play_unguarded (departs++[.call (.marchBackCity .stored 1),.call (.marchBackCity .stored 1),.resume 0 true,.resume 0 true,.resume 0 true,
    .resume 0 true,.resume 0 true,.resume 0 true]) _ _ (by decide)

end cart
end OriginGame.TransportLogic
