import Adb.ProtocolString

/-!
# Addresses and targets

`android::base::ParseNetAddress`, and `atransport::MatchesTarget`, which compares addresses with it.
-/

namespace Adb

open Lib

def scanInt (s : Bytes) : Option ℤ :=
  let t := s.dropWhile isSpace
  let negative := t.head? = some 45
  let digits := (if negative || t.head? = some 43 then t.tail else t).takeWhile isDigit
  if digits.isEmpty then none
  else
    let n : ℕ := digits.foldl (fun n c => n * 10 + (c.toNat - 48)) 0
    let v : ℤ := if negative then max (-(n : ℤ)) (-2 ^ 63) else min (n : ℤ) (2 ^ 63 - 1)
    some (BitVec.ofInt 32 v).toInt

structure NetAddress where
  host : Bytes
  port : ℤ
  /-- `canonical_address` -/
  canonical : Bytes
deriving DecidableEq, Repr

def printInt (n : ℤ) : Bytes :=
  if n < 0 then ascii "-" ++ numeral 10 n.natAbs else numeral 10 n.natAbs

def findPair (a b : UInt8) : Bytes → Option ℕ
  | x :: y :: rest =>
    if x = a ∧ y = b then some 0 else (findPair a b (y :: rest)).map (· + 1)
  | _ => none

def rfindPair (a b : UInt8) : Bytes → Option ℕ
  | x :: y :: rest =>
    match rfindPair a b (y :: rest) with
    | some n => some (n + 1)
    | none => if x = a ∧ y = b then some 0 else none
  | _ => none

/-- The three forms of an address: whether it is IPv6, the host, and the text of the port. -/
def splitNetAddress (address : Bytes) : Except Bytes (Bool × Bytes × Option Bytes) :=
  let colons := address.count 58
  if address.head? = some 91 then
    -- [::1]:123
    match findPair 93 58 address, rfindPair 93 58 address with
    | some first, some last =>
      .ok (true, (address.drop 1).take (first - 1), some (address.drop (last + 2)))
    | _, _ => .error (ascii "bad IPv6 address '" ++ cString address ++ ascii "'")
  else if address.count 46 = 0 ∧ 2 ≤ colons ∧ colons ≤ 7 then .ok (true, address, none)
  else if colons ≤ 1 then
    -- 1.2.3.4 or some.accidental.domain.com
    match address.splitOn 58 with
    | [host, port] => .ok (false, host, some port)
    | _ => .ok (false, address, none)
  else .ok (true, [], none)

def parsePort (address text : Bytes) : Except Bytes ℤ :=
  let bad := ascii "bad port number '" ++ cString text ++ ascii "' in '" ++ cString address ++
    ascii "'"
  match scanInt (cString text) with
  | none => .error bad
  | some port => if port ≤ 0 ∨ port > 65535 then .error bad else .ok port

/-- `ParseNetAddress`; `port` is what it is if the address does not say. -/
def parseNetAddress (port : ℤ) (address : Bytes) : Except Bytes NetAddress := do
  let (ipv6, host, text) ← splitNetAddress address
  if host.isEmpty then .error (ascii "no host in '" ++ cString address ++ ascii "'")
  else do
    let port ← match text with
      | none => pure port
      | some text => parsePort address text
    pure
      { host := host
        port := port
        canonical :=
          if ipv6 then ascii "[" ++ cString host ++ ascii "]:" ++ printInt port
          else cString host ++ ascii ":" ++ printInt port }

def isAlnum (c : UInt8) : Bool := isDigit c || (97 ≤ c && c ≤ 122) || (65 ≤ c && c ≤ 90)

def qualMatch (target scheme qual : Bytes) (sanitize : Bool) : Bool :=
  if target.isEmpty then qual.isEmpty
  else !qual.isEmpty &&
    cString target = scheme ++ qual.map fun c => if sanitize && !isAlnum c then 95 else c

namespace ATransport

/-- A local transport matches [tcp:|udp:]hostname[:port]. -/
def matchesAddress (t : ATransport) (target : Bytes) : Bool :=
  -- for fastboot compatibility, ignore protocol prefixes
  let target :=
    if (ascii "tcp:").isPrefixOf target || (ascii "udp:").isPrefixOf target then target.drop 4
    else target
  match parseNetAddress (-1) t.serial with
  | .error _ => false
  | .ok a =>
    -- the target may omit the port to default to ours
    match parseNetAddress a.port target with
    | .error _ => false
    | .ok b => a.host = b.host && a.port = b.port

def matchesTarget (t : ATransport) (target : Bytes) : Bool :=
  !t.serial.isEmpty &&
      (target = t.serial || (t.type = .kTransportLocal && t.matchesAddress target)) ||
    target = t.devpath || qualMatch target (ascii "product:") t.product false ||
    qualMatch target (ascii "model:") t.model true ||
    qualMatch target (ascii "device:") t.device false

end ATransport

example : (parseNetAddress 5555 (ascii "10.0.0.1")).toOption.map (·.canonical) =
    some (ascii "10.0.0.1:5555") := by
  decide

example : (parseNetAddress 5555 (ascii "[::1]:666")).toOption.map (·.canonical) =
    some (ascii "[::1]:666") := by
  decide

end Adb
