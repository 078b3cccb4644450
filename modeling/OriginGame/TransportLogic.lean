import OriginGame.Handlers
import OriginGame.LuaTable
import Mathlib.Logic.Function.Basic

namespace OriginGame.TransportLogic

inductive CurrencyType where
  | food | wood | stone | gold
  deriving DecidableEq

-- none is an id of no currency that can be transported.
structure ResourceInfo where
  resourceTypeId : Option CurrencyType
  load : Int
  deriving DecidableEq

inductive TransportStatus where
  | success | fail | return_ | leave | battleLose
  deriving DecidableEq

-- d_transport, with the number of the call that made the transport.
structure Transport where
  transportResourceInfo : List ResourceInfo
  allResourceInfo : List ResourceInfo
  transportStatus : TransportStatus
  made : Nat

-- For the record: which entry of which transport was deducted or credited.
structure Entry where
  made : Nat
  position : Nat
  resource : ResourceInfo
  deriving DecidableEq

-- One role.
structure State where
  balance : CurrencyType → Int
  transports : Table Nat Transport
  -- The index and the resources of every createTransport.
  made : List (Nat×List ResourceInfo)
  deducts : List Entry
  credits : List Entry

def entry (made : Nat) (resources : List ResourceInfo) (position : Nat) : Entry := ⟨made,position,resources.getD position ⟨none,0⟩⟩

-- RoleLogic:addFood, addWood, addStone or addGold. Update stores the sum as it is; only its
-- answer is never below zero.
def addCurrency (balance : CurrencyType → Int) (resource : ResourceInfo) (sign : Int) : CurrencyType → Int :=
  resource.resourceTypeId.elim balance (fun currency => Function.update balance currency (balance currency+sign*resource.load))

-- math.floor( load * tax / 1000 + 0.5 )
def reduceNum (tax load : Int) : Int := (load*tax+500)/1000

-- What is left to deduct of createTransport, and to credit of marchBackCity. A call that did
-- not find a transport has nothing to credit.
inductive Handler where
  | create (made index : Nat) (tax : Int) (resources : List ResourceInfo) (todo : List Nat)
  | back (index : Nat) (found : Option (Nat×List ResourceInfo)) (todo : List Nat)
  deriving DecidableEq

inductive Request where
  | createTransport (order : Order Nat) (index : Nat) (tax : Int) (resources : List ResourceInfo)
  -- From checkTransportOnRoleLogin, forceMoveTransport or the end of the way back.
  | marchBackCity (order : Order Nat) (index : Nat)
  -- TransportBack and transportCallback
  | setStatus (index : Nat) (transportStatus : TransportStatus)

def positions (order : Order Nat) (resources : List ResourceInfo) : List Nat := order.visit (List.range resources.length)

def refunds : TransportStatus → Bool
  | .fail | .return_ | .leave => true
  | .success | .battleLose => false

def enter : Request → State → State×Option Handler
  | .createTransport order index tax resources,s =>
    ({s with made:=s.made++[(index,resources)]},some (.create s.made.length index tax resources (positions order resources)))
  | .marchBackCity order index,s =>
    (s,some (match s.transports.lookup index with
      | none => .back index none []
      | some transport => .back index (some (transport.made,transport.allResourceInfo))
          (if refunds transport.transportStatus then positions order transport.allResourceInfo else [])))
  | .setStatus index transportStatus,s =>
    ({s with transports:=s.transports.modify index (fun transport => {transport with transportStatus})},none)

-- The answer says whether the record was added.
def resume (added : Bool) : Handler → State → State×Option Handler
  | .create made index tax resources (position::todo),s =>
    let entry := entry made resources position
    ({s with balance:=addCurrency s.balance entry.resource (-1), deducts:=s.deducts++[entry]},some (.create made index tax resources todo))
  | .create made index tax resources [],s =>
    let transportResourceInfo := resources.map (fun resource => {resource with load:=resource.load-reduceNum tax resource.load})
    (if added then {s with transports:=s.transports.insert index ⟨transportResourceInfo,resources,.leave,made⟩} else s,none)
  | .back index (some (made,resources)) (position::todo),s =>
    let entry := entry made resources position
    ({s with balance:=addCurrency s.balance entry.resource 1, credits:=s.credits++[entry]},some (.back index (some (made,resources)) todo))
  | .back index _ _,s => ({s with transports:=s.transports.erase index},none)

abbrev Acts := Interleaves enter resume

def initial (balance : CurrencyType → Int) : Service State Handler := ⟨⟨balance,∅,[],[],[]⟩,[]⟩

end OriginGame.TransportLogic
