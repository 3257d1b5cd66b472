import Dockermock.Library.Transition
import Dockermock.PfUtil.Cidr

/-!
The address pool of a redirect rule: what DIOCCHANGEADDR does to it, and the two
loops that walk it beside a list of addresses. The path, the ticket and the
number of the rule only say which pool it is. Every ioctl succeeds, but for a
position past the end.
-/

namespace Dockermock.PfUtil

open Library

section Kernel

inductive Change where
  | head (entry : PoolAddr)
  | tail (entry : PoolAddr)
  | before (nr : Nat) (entry : PoolAddr)
  | remove (nr : Nat)
  deriving DecidableEq, Repr

def changeAddr (pool : List PoolAddr) : Change → Option (List PoolAddr)
  | .head entry => some (entry :: pool)
  | .tail entry => some (pool ++ [entry])
  | .before nr entry => if nr < pool.length then some (pool.insertIdx nr entry) else none
  | .remove nr => if nr < pool.length then some (pool.eraseIdx nr) else none

def word (bytes : List UInt8) : BitVec 32 :=
  .ofNat 32 ((bytes.take 4).foldl (fun value byte => value * 256 + byte.toNat) 0)

/-- What compare_cidr sees of an address in a pool. -/
def PfAddr.entry : PfAddr → PoolAddr
  | .v4 addr mask => ⟨addr, mask⟩
  | .v6 addr mask => ⟨word addr, word mask⟩

end Kernel

section Loops

variable (inetPton6 : CString → Option (List UInt8))

/-- add_address_to_pool; nothing where it returns -1. -/
def addAddressToPool (cidr : CString) (pos : Int) (pool : List PoolAddr) : Option (List PoolAddr) :=
  (fillPfAddrAndMask inetPton6 cidr).bind fun addr =>
    changeAddr pool <|
      if pos = 0 then .head addr.entry
      else if pos = -1 then .tail addr.entry
      else .before pos.toNat addr.entry

def removeAddressFromPool (cidr : CString) (pos : Nat) (pool : List PoolAddr) :
    Option (List PoolAddr) :=
  (fillPfAddrAndMask inetPton6 cidr).bind fun _ => changeAddr pool (.remove pos)

/-- The variables of either loop, the pool, and the positions of the list for which the pool
was changed. -/
structure Walk where
  pool : List PoolAddr
  i : Nat
  j : Nat
  total : Nat
  fetch : Bool
  paddr : PoolAddr
  changed : List Nat
  deriving DecidableEq, Repr

def Walk.start (pool : List PoolAddr) : Walk := ⟨pool, 0, 0, pool.length, true, ⟨0, 0⟩, []⟩

/-- The address to compare with: the one fetched before, or DIOCGETADDR. -/
def Walk.address (walk : Walk) : Option PoolAddr :=
  if walk.fetch then walk.pool[walk.i]? else some walk.paddr

variable (addrList : List CString)

def Walk.goesOn (walk : Walk) : Bool := walk.i < walk.total ∧ walk.j < addrList.length

def addTurn (walk : Walk) : Int × Walk :=
  match walk.address with
  | none => (-1, walk)
  | some paddr =>
      let cidr := addrList.getD walk.j []
      let cmp := compareCidr paddr cidr
      if cmp < 0 then (0, { walk with paddr := paddr, i := walk.i + 1, fetch := true })
      else if cmp = 0 then
        (0, { walk with paddr := paddr, i := walk.i + 1, j := walk.j + 1, fetch := true })
      else
        match addAddressToPool inetPton6 cidr walk.i walk.pool with
        | none => (-1, { walk with paddr := paddr })
        | some pool =>
            (0,
              { pool := pool, i := walk.i + 1, j := walk.j + 1, total := walk.total + 1,
                fetch := false, paddr := paddr, changed := walk.changed ++ [walk.j] })

/-- The second loop: what is left of the list goes to the tail. -/
def appendRest : List CString → Walk → Int × Walk
  | [], walk => (0, walk)
  | cidr :: rest, walk =>
      match addAddressToPool inetPton6 cidr (-1) walk.pool with
      | none => (-1, walk)
      | some pool =>
          appendRest rest
            { walk with pool := pool, j := walk.j + 1, changed := walk.changed ++ [walk.j] }

/-- Both loops of add_addressList_to_pool, with at most so many turns of the first. -/
def addFrom (turns : Nat) (walk : Walk) : Option (Int × Walk) :=
  (whileLoop (Walk.goesOn addrList) (addTurn inetPton6 addrList) turns walk).map fun done =>
    if done.1 = 0 then appendRest inetPton6 (addrList.drop done.2.j) done.2 else done

def addAddressListToPool (turns : Nat) (pool : List PoolAddr) : Option (Int × Walk) :=
  if addrList = [] then some (-1, .start pool) else addFrom inetPton6 addrList turns (.start pool)

/-- One turn of remove_addressList_from_pool. The bound stays, whatever has been removed. -/
def removeTurn (walk : Walk) : Int × Walk :=
  match walk.address with
  | none => (-1, walk)
  | some paddr =>
      let cidr := addrList.getD walk.j []
      let cmp := compareCidr paddr cidr
      if cmp < 0 then (0, { walk with paddr := paddr, i := walk.i + 1, fetch := true })
      else if cmp = 0 then
        match removeAddressFromPool inetPton6 cidr walk.i walk.pool with
        | none => (-1, { walk with paddr := paddr })
        | some pool =>
            (0, { walk with
                  pool := pool, j := walk.j + 1, fetch := true, paddr := paddr,
                    changed := walk.changed ++ [walk.j] })
      else (0, { walk with paddr := paddr, j := walk.j + 1, fetch := false })

def removeAddressListFromPool (turns : Nat) (pool : List PoolAddr) : Option (Int × Walk) :=
  if addrList = [] then some (-1, .start pool)
  else whileLoop (Walk.goesOn addrList) (removeTurn inetPton6 addrList) turns (.start pool)

end Loops

end Dockermock.PfUtil
