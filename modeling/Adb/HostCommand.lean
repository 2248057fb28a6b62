import Adb.CloseTheorems
import Adb.ProtocolString

/-!
# Client and server agree on the device

The client puts the device it wants in front of its command, without quoting anything, and the
server takes the two apart again. A serial number in one of the forms that the client is meant to use
ends where the server looks for its end.
-/

namespace Adb

open Lib List

variable {s serial command rest word host : Bytes}

def colon : UInt8 := 58

/-- `format_host_command`; `target` is what the client was told with `adb_set_transport`. -/
def formatHostCommand (target : Target) (command : Bytes) : Bytes :=
  if target.transportId ≠ 0 then
    ascii "host-transport-id:" ++ numeral 10 target.transportId ++ [colon] ++ command
  else
    match target.serial with
    | some serial => ascii "host-serial:" ++ serial ++ [colon] ++ command
    | none =>
      match target.type with
      | .kTransportUsb => ascii "host-usb" ++ [colon] ++ command
      | .kTransportLocal => ascii "host-local" ++ [colon] ++ command
      | _ => ascii "host" ++ [colon] ++ command

/-! ## The targets of a client -/

def protocols : List Bytes := [[], ascii "tcp:", ascii "udp:"]

def reserved : List Bytes :=
  [ascii "usb", ascii "product", ascii "model", ascii "device", ascii "tcp", ascii "udp"]

inductive IsPort : Bytes → Prop
  | omitted : IsPort []
  | port {digits : Bytes} (hne : digits ≠ []) (hdigits : ∀ c ∈ digits, isDigit c = true) :
      IsPort (colon :: digits)

inductive IsSerial : Bytes → Prop
  | host {proto host port : Bytes} (hproto : proto ∈ protocols) (hne : host ≠ [])
      (hcolon : colon ∉ host) (hbracket : host.head? ≠ some 91) (hword : host ∉ reserved)
      (hport : IsPort port) : IsSerial (proto ++ host ++ port)
  | ipv6 {proto v6 port : Bytes} (hproto : proto ∈ protocols) (hend : 93 ∉ v6)
      (hport : IsPort port) : IsSerial (proto ++ ([91] ++ v6 ++ [93]) ++ port)
  | qualified {scheme q : Bytes}
      (hscheme : scheme ∈ [ascii "usb", ascii "product", ascii "model", ascii "device"])
      (hcolon : colon ∉ q) : IsSerial (scheme ++ [colon] ++ q)

/-- The targets that a client can be told: an id, a serial number or a type. -/
inductive IsTarget : Target → Prop
  | transportId {target : Target} (hpos : 1 ≤ target.transportId)
      (hlt : target.transportId < 2 ^ 63) : IsTarget target
  | serial {target : Target} {serial : Bytes} (hid : target.transportId = 0)
      (hserial : target.serial = some serial) (hform : IsSerial serial) (hnull : 0 ∉ serial) : IsTarget target
  | type {target : Target} (hid : target.transportId = 0) (hserial : target.serial = none)
      (htype : target.type ∈ [.kTransportUsb, .kTransportLocal, .kTransportAny]) : IsTarget target

/-- The one that counts: an id before a serial number, and that before a type. -/
def Target.addressed (target : Target) : Target :=
  if target.transportId ≠ 0 then { transportId := target.transportId }
  else
    match target.serial with
    | some serial => { serial := some serial }
    | none => { type := target.type }

/-! ## Finding the end of the serial number -/

lemma strchr_append {c : UInt8} (h : c ∉ s) : strchr (s ++ c :: rest) c = some s.length := by
  induction s with
  | nil => simp [strchr, List.idxOf?_cons]
  | cons a s ih =>
    have ha : (a == c) = false := by
      simp only [beq_eq_false_iff_ne, ne_eq]
      intro heq
      exact h (by simp [heq])
    have hs := ih fun hc => h (by simp [hc])
    rw [strchr] at hs
    rw [strchr, cons_append, List.idxOf?_cons, ha, hs]
    rfl

lemma eq_of_isPrefixOf (hword : colon ∉ word) (hs : colon ∉ s)
    (h : (word ++ [colon]).isPrefixOf (s ++ colon :: rest) = true) : word = s := by
  induction word generalizing s with
  | nil =>
    cases s with
    | nil => rfl
    | cons a s =>
      simp only [nil_append, cons_append, List.isPrefixOf, Bool.and_true] at h
      exact absurd (by simp [(beq_iff_eq.mp h)]) hs
  | cons a word ih =>
    cases s with
    | nil =>
      simp only [nil_append, cons_append, List.isPrefixOf, Bool.and_eq_true] at h
      exact absurd (by simp [(beq_iff_eq.mp h.1)]) hword
    | cons b s =>
      simp only [cons_append, List.isPrefixOf, Bool.and_eq_true] at h
      rw [beq_iff_eq.mp h.1, ih (fun hc => hword (by simp [hc])) (fun hc => hs (by simp [hc])) h.2]

lemma skip_port {a b port : Bytes} (hb : colon ∉ b) (hport : IsPort port)
    (hcommand : ∀ c, command.head? = some c → isDigit c = false)
    (hs : s = a ++ b ++ port ++ colon :: command) :
    strchr (s.drop a.length) 58 = some b.length ∧
      (if 0 < ((s.drop (a.length + b.length + 1)).takeWhile isDigit).length ∧
          (s.drop (a.length + b.length + 1 +
            ((s.drop (a.length + b.length + 1)).takeWhile isDigit).length)).head? = some 58
        then some (a.length + b.length + 1 +
          ((s.drop (a.length + b.length + 1)).takeWhile isDigit).length)
        else some (a.length + b.length)) = some (a ++ b ++ port).length := by
  subst hs
  cases hport with
  | omitted =>
    have hdrop : (a ++ b ++ [] ++ colon :: command).drop (a.length + b.length + 1) = command := by
      rw [List.append_nil, ← length_append, drop_append]
      simp
    have hnone : command.takeWhile isDigit = [] := by
      cases command with
      | nil => rfl
      | cons c rest => simp [hcommand c rfl]
    rw [hdrop, hnone]
    refine ⟨?_, by simp⟩
    rw [List.append_nil, append_assoc, drop_left]
    exact strchr_append hb
  | port hne hdigits =>
    rename_i digits
    have hdrop : (a ++ b ++ colon :: digits ++ colon :: command).drop
        (a.length + b.length + 1) = digits ++ colon :: command := by
      rw [← length_append, append_assoc (a ++ b), drop_append]
      simp
    have htake : (digits ++ colon :: command).takeWhile isDigit = digits := by
      rw [takeWhile_append_of_pos hdigits, takeWhile_cons_of_neg (by decide), List.append_nil]
    have hpos : 0 < digits.length := length_pos_iff.mpr hne
    rw [hdrop, htake, ← drop_drop, hdrop, drop_left]
    refine ⟨?_, ?_⟩
    · rw [append_assoc, append_assoc, drop_left]
      exact strchr_append hb
    rw [if_pos ⟨hpos, rfl⟩]
    simp only [length_append, length_cons]
    congr 1
    omega

lemma skip_protocol {proto t : Bytes} (hproto : proto ∈ protocols)
    (hfirst : ∀ w ∈ reserved, (w ++ [colon]).isPrefixOf t = false) :
    [ascii "usb:", ascii "product:", ascii "model:", ascii "device:"].find?
        (·.isPrefixOf (proto ++ t)) = none ∧
      (if (ascii "tcp:").isPrefixOf (proto ++ t) || (ascii "udp:").isPrefixOf (proto ++ t)
        then 4 else 0) = proto.length := by
  simp only [protocols, mem_cons, not_mem_nil, or_false] at hproto
  rcases hproto with rfl | rfl | rfl
  · have hnot : ∀ w ∈ reserved, (w ++ [colon]).isPrefixOf ([] ++ t) = false := hfirst
    have husb := hnot (ascii "usb") (by decide)
    have hproduct := hnot (ascii "product") (by decide)
    have hmodel := hnot (ascii "model") (by decide)
    have hdevice := hnot (ascii "device") (by decide)
    have htcp := hnot (ascii "tcp") (by decide)
    have hudp := hnot (ascii "udp") (by decide)
    constructor
    · rw [List.find?_eq_none]
      intro scheme hscheme
      simp only [mem_cons, not_mem_nil, or_false] at hscheme
      rcases hscheme with rfl | rfl | rfl | rfl
      · exact Bool.not_eq_true _ |>.mpr husb
      · exact Bool.not_eq_true _ |>.mpr hproduct
      · exact Bool.not_eq_true _ |>.mpr hmodel
      · exact Bool.not_eq_true _ |>.mpr hdevice
    · rw [show (ascii "tcp:").isPrefixOf ([] ++ t) = false from htcp,
        show (ascii "udp:").isPrefixOf ([] ++ t) = false from hudp]
      rfl
  · exact ⟨rfl, rfl⟩
  · exact ⟨rfl, rfl⟩

lemma skipHostSerial_eq {proto t a b port : Bytes} (hproto : proto ∈ protocols)
    (hfirst : ∀ w ∈ reserved, (w ++ [colon]).isPrefixOf t = false)
    (hstart : (if t.head? = some 91 then
      ((strchr t 93).map (· + proto.length)).getD proto.length else proto.length) = a.length)
    (hb : colon ∉ b) (hport : IsPort port)
    (hcommand : ∀ c, command.head? = some c → isDigit c = false)
    (ht : proto ++ t = a ++ b ++ port ++ colon :: command) :
    skipHostSerial (proto ++ t) = some (a ++ b ++ port).length := by
  obtain ⟨hfind, hlength⟩ := skip_protocol hproto hfirst
  obtain ⟨hcolon, hend⟩ := skip_port hb hport hcommand ht
  unfold skipHostSerial
  rw [hfind]
  dsimp only
  rw [hlength, drop_left, hstart, hcolon]
  exact hend

lemma skipHostSerial_serial (h : IsSerial serial)
    (hcommand : ∀ c, command.head? = some c → isDigit c = false) :
    skipHostSerial (serial ++ colon :: command) = some serial.length := by
  cases h with
  | @host proto host port hproto hne hcolon hbracket hword hport =>
    obtain ⟨rest, hrest⟩ : ∃ rest, port ++ colon :: command = colon :: rest := by
      cases hport with
      | omitted => exact ⟨command, rfl⟩
      | port => exact ⟨_, rfl⟩
    have hassoc : proto ++ host ++ port ++ colon :: command =
        proto ++ (host ++ (port ++ colon :: command)) := by simp
    rw [hassoc]
    refine skipHostSerial_eq hproto ?_ ?_ hcolon hport hcommand hassoc.symm
    · intro w hw
      have hplain : ∀ w ∈ reserved, colon ∉ w := by decide
      rw [hrest, Bool.eq_false_iff]
      intro hmatch
      rw [eq_of_isPrefixOf (hplain w hw) hcolon hmatch] at hw
      exact hword hw
    · rw [if_neg]
      cases host with
      | nil => exact absurd rfl hne
      | cons c host => exact hbracket
  | @ipv6 proto v6 port hproto hend hport =>
    have hassoc : proto ++ ([91] ++ v6 ++ [93]) ++ port ++ colon :: command =
        proto ++ (([91] ++ v6) ++ 93 :: (port ++ colon :: command)) := by simp
    have hbracket : (93 : UInt8) ∉ [91] ++ v6 := by simp [hend]
    have hlen : (proto ++ ([91] ++ v6 ++ [93]) ++ port).length =
        ((proto ++ ([91] ++ v6)) ++ [93] ++ port).length := by simp
    rw [hassoc, hlen]
    refine skipHostSerial_eq hproto ?_ ?_ (by decide) hport hcommand (by simp)
    · intro w hw
      simp only [reserved, mem_cons, not_mem_nil, or_false] at hw
      rcases hw with rfl | rfl | rfl | rfl | rfl | rfl <;> rfl
    · rw [if_pos (by rfl), strchr_append hbracket]
      simp only [Option.map_some, Option.getD_some, length_append]
      omega
  | @qualified scheme q hscheme hcolon =>
    have hassoc : scheme ++ [colon] ++ q ++ colon :: command =
        (scheme ++ [colon]) ++ (q ++ colon :: command) := by simp
    have hfind : [ascii "usb:", ascii "product:", ascii "model:", ascii "device:"].find?
        (·.isPrefixOf ((scheme ++ [colon]) ++ (q ++ colon :: command))) =
          some (scheme ++ [colon]) := by
      simp only [mem_cons, not_mem_nil, or_false] at hscheme
      rcases hscheme with rfl | rfl | rfl | rfl <;> rfl
    rw [hassoc, skipHostSerial, hfind]
    dsimp only
    have hend : strchr (q ++ colon :: command) 58 = some q.length := strchr_append hcolon
    have hlen : (scheme ++ [colon] ++ q).length = q.length + (scheme ++ [colon]).length := by
      rw [length_append, Nat.add_comm]
    rw [drop_left, hend, Option.map_some, hlen]

/-! ## Transport ids -/

def decDigit (c : UInt8) : Option ℕ := if isDigit c then some (c.toNat - 48) else none

lemma reads_decDigit : Reads decDigit 10 := by
  unfold Reads
  decide

lemma isDigit_of_mem_numeral (n : ℕ) : ∀ c ∈ numeral 10 n, isDigit c = true := by
  intro c hc
  have hsome := isSome_of_mem_numeral (by omega) reads_decDigit c hc
  by_contra hnot
  rw [decDigit, if_neg hnot] at hsome
  cases hsome

lemma readDigits_eq {digits : Bytes} (h : ∀ c ∈ digits, isDigit c = true) (n : ℕ) :
    digits.foldl (fun n c => n * 10 + (c.toNat - 48)) n = readNumeral decDigit 10 n digits := by
  induction digits generalizing n with
  | nil => rfl
  | cons c rest ih =>
    have hvalue : (decDigit c).getD 0 = c.toNat - 48 := by
      rw [decDigit, if_pos (h c (by simp))]
      rfl
    rw [foldl_cons, ih fun d hd => h d (by simp [hd]), readNumeral, readNumeral, foldl_cons, hvalue]

lemma isSome_hexDigit {c : UInt8} (h : isDigit c = true) : (hexDigit c).isSome = true := by
  have hc : 48 ≤ c ∧ c ≤ 57 := by simpa [isDigit] using h
  rw [hexDigit, if_pos hc]
  rfl

lemma strtoll_numeral {n : ℕ} (h : n < 2 ^ 63) :
    strtoll (numeral 10 n ++ colon :: rest) = (n, colon :: rest) := by
  have hdigits := isDigit_of_mem_numeral n
  have hne : numeral 10 n ≠ [] := by
    rw [numeral_eq (by omega)]
    split <;> simp
  obtain ⟨c, tail, hcons⟩ := exists_cons_of_ne_nil hne
  have hc : isDigit c = true := hdigits c (by simp [hcons])
  have hplain := hexDigit_plain (c := c) (isSome_hexDigit hc)
  have hskip : (numeral 10 n ++ colon :: rest).dropWhile
      (fun c => c = 32 || (9 ≤ c && c ≤ 13)) = numeral 10 n ++ colon :: rest := by
    have hspace : isSpace c = false := hplain.1
    rw [hcons, cons_append, dropWhile_cons_of_neg]
    exact Bool.not_eq_true _ |>.mpr hspace
  have hhead : (numeral 10 n ++ colon :: rest).head? = some c := by simp [hcons]
  have htake : (numeral 10 n ++ colon :: rest).takeWhile isDigit = numeral 10 n := by
    rw [takeWhile_append_of_pos hdigits, takeWhile_cons_of_neg (by decide), List.append_nil]
  have hvalue : (numeral 10 n).foldl (fun n c => n * 10 + (c.toNat - 48)) 0 = n := by
    rw [readDigits_eq hdigits, readNumeral_numeral (by omega) reads_decDigit]
  have hfits : (min (n : ℤ) (2 ^ 63 - 1) % 2 ^ 64).toNat = n := by omega
  simp only [strtoll, hskip, hhead, Option.some_inj, hplain.2.1, hplain.2.2.1, decide_false,
    Bool.or_self, Bool.false_eq_true, if_false, htake, hvalue, drop_left, hfits,
    List.isEmpty_iff, hne]

/-! ## The request -/

lemma isPrefixOf_append {a b : Bytes} : a.isPrefixOf (a ++ b) = true := by
  rw [ isPrefixOf_iff_prefix]
  exact prefix_append a b

lemma parseRequest_formatHostCommand {target : Target} (h : IsTarget target)
    (hcommand : ∀ c, command.head? = some c → isDigit c = false) :
    Server.parseRequest (formatHostCommand target command) = .host command target.addressed := by
  cases h with
  | transportId hpos hlt =>
    have hid : target.transportId ≠ 0 := by omega
    have hassoc : ascii "host-transport-id:" ++ numeral 10 target.transportId ++ [colon] ++
        command = ascii "host-transport-id:" ++
          (numeral 10 target.transportId ++ colon :: command) := by simp
    rw [formatHostCommand, if_pos hid, hassoc, Target.addressed, if_pos hid, Server.parseRequest,
      if_neg (by exact Bool.false_ne_true), if_pos isPrefixOf_append,
      show (18 : ℕ) = (ascii "host-transport-id:").length from rfl, drop_left,
      strtoll_numeral hlt]
    rfl
  | @serial serial hid hserial hform hnull =>
    have hassoc : ascii "host-serial:" ++ serial ++ [colon] ++ command =
        ascii "host-serial:" ++ (serial ++ colon :: command) := by simp
    have hdrop : (serial ++ colon :: command).drop (serial.length + 1) = command := by
      rw [drop_append]
      simp
    rw [formatHostCommand, if_neg (by simpa using hid), hserial, Target.addressed,
      if_neg (by simpa using hid), hserial]
    dsimp only
    rw [hassoc, Server.parseRequest, if_pos isPrefixOf_append,
      show (12 : ℕ) = (ascii "host-serial:").length from rfl, drop_left]
    dsimp only
    rw [skipHostSerial_serial hform hcommand]
    dsimp only
    rw [hdrop, take_left]
  | type hid hserial htype =>
    rw [formatHostCommand, if_neg (by simpa using hid), hserial, Target.addressed,
      if_neg (by simpa using hid), hserial]
    simp only [mem_cons, not_mem_nil, or_false] at htype
    rcases htype with htype | htype | htype <;> rw [htype] <;> rfl

lemma null_notMem_formatHostCommand {target : Target} (h : IsTarget target)
    (hcommand : 0 ∉ command) : 0 ∉ formatHostCommand target command := by
  cases h with
  | transportId hpos hlt =>
    have hid : target.transportId ≠ 0 := by omega
    have hdigits : 0 ∉ numeral 10 target.transportId := by
      intro hzero
      have hdigit := isDigit_of_mem_numeral _ 0 hzero
      revert hdigit
      decide
    rw [formatHostCommand, if_pos hid]
    simp [hdigits, hcommand]
    decide
  | @serial serial hid hserial hform hnull =>
    rw [formatHostCommand, if_neg (by simpa using hid), hserial]
    simp [hnull, hcommand]
    decide
  | type hid hserial htype =>
    rw [formatHostCommand, if_neg (by simpa using hid), hserial]
    simp only [mem_cons, not_mem_nil, or_false] at htype
    rcases htype with htype | htype | htype <;> rw [htype] <;> simp [hcommand] <;> decide

lemma unhex_of_digits (h : ∀ c ∈ s, (hexDigit c).isSome = true) (n : ℕ) :
    unhex.go n s = readNumeral hexDigit 16 n s := by
  induction s generalizing n with
  | nil => rfl
  | cons c s ih =>
    obtain ⟨d, hd⟩ := Option.isSome_iff_exists.mp (h c (by simp))
    rw [unhex.go, hd]
    dsimp only
    rw [ih fun c hc => h c (by simp [hc]), readNumeral, readNumeral, foldl_cons, hd]
    rfl

lemma unhex_hex4 {n : ℕ} (h : n ≤ 0xffff) : unhex (Sockets.hex4 n ++ rest) 4 = n := by
  have hlen := (length_hex4 n).2.mpr h
  rw [unhex, ← hlen, take_left, unhex_of_digits (isSome_of_mem_hex4 n), readNumeral_hex4]

/-- The smart socket hands the client's command to `handle_host_request`, for the target that the
client was told. -/
theorem host_command_agrees {cfg : Config} (hhost : cfg.host = true) {target : Target}
    (htarget : IsTarget target) (hnull : 0 ∉ command)
    (hcommand : ∀ c, command.head? = some c → isDigit c = false) {bytes : Bytes}
    (hframe : (formatHostCommand target command).length ≤ 0xffff)
    (hsend : sendProtocolString (formatHostCommand target command) = some bytes)
    {σ : Server} {s c : Ptr} {e : ASocket} (hs : σ.socks.heap.get s = some e)
    (hempty : e.smartSocketData = []) (hpeer : e.peer = some c) :
    Server.smartSocketEnqueue cfg s bytes σ = Server.hostRequest cfg command target.addressed s c
        { σ with socks := σ.socks.put s { e with smartSocketData := bytes } } := by
  have hplain := null_notMem_formatHostCommand htarget hnull
  have hparse := parseRequest_formatHostCommand htarget hcommand
  have hpos : 0 < (formatHostCommand target command).length := by
    apply length_pos_iff.mpr
    intro hnil
    rw [hnil] at hparse
    cases hparse
  generalize formatHostCommand target command = request at *
  have hcString := cString_eq_self hplain
  have hshort : request.length ≤ maxPayload - 4 := Nat.le_trans hframe (by decide)
  have hbytes : bytes = Sockets.hex4 request.length ++ request := by
    simp only [sendProtocolString, toNat_length hframe, take_length, hcString,
      if_neg (Nat.not_lt.mpr hshort)] at hsend
    exact (Option.some_inj.mp hsend).symm
  have hhex := (length_hex4 request.length).2.mpr hframe
  have hlen : bytes.length = request.length + 4 := by
    rw [hbytes, length_append]
    omega
  have hunhex : unhex bytes 4 = request.length := by rw [hbytes, unhex_hex4 hframe]
  have hservice : cString ((bytes.drop 4).take request.length) = request := by
    rw [hbytes, ← hhex, drop_left, take_length, hcString]
  have hgood : ¬ ((decide (request.length = 0) || decide (request.length > maxPayload)) = true) := by
    simp only [Bool.or_eq_true, decide_eq_true_eq]
    omega
  rw [Server.smartSocketEnqueue, Sockets.deref_eq hs, ok_bind]
  simp only [hempty, nil_append, hunhex]
  rw [if_neg (by omega), if_neg hgood, if_neg (by omega), hpeer, Sockets.nonNull]
  simp only [pure_eq_ok, ok_bind, hservice]
  rw [Server.smartSocketRequest, if_pos hhost, hparse]

def newClient : Server :=
  { socks :=
      { heap :=
          (Store.empty.alloc
            { enqueue := .smartSocketEnqueue
              ready := .smartSocketReady
              close := .smartSocketClose
              peer := some 1 : ASocket }).alloc
            { enqueue := .localSocketEnqueue
              ready := .localSocketReady
              close := .localSocketClose
              peer := some 0 } } }

/-- `adb -s tcp:10.0.0.1:5555 get-state`. -/
theorem host_command_agrees_getState :
    ∃ bytes τ, sendProtocolString (formatHostCommand
        { serial := some (ascii "tcp:10.0.0.1:5555") } (ascii "get-state")) = some bytes ∧
      Server.smartSocketEnqueue Config.adb 0 bytes newClient =
        Server.hostRequest Config.adb (ascii "get-state")
          { serial := some (ascii "tcp:10.0.0.1:5555") } 0 1 τ := by
  have hserial : IsSerial (ascii "tcp:10.0.0.1:5555") :=
    @IsSerial.host (ascii "tcp:") (ascii "10.0.0.1") (ascii ":5555") (by decide) (by decide)
      (by decide) (by decide) (by decide)
      (@IsPort.port (ascii "5555") (by decide) (by decide +kernel))
  have htarget : IsTarget { serial := some (ascii "tcp:10.0.0.1:5555") } :=
    .serial rfl rfl hserial (by decide)
  have hsend : sendProtocolString (formatHostCommand
      { serial := some (ascii "tcp:10.0.0.1:5555") } (ascii "get-state")) =
      some (ascii "0027host-serial:tcp:10.0.0.1:5555:get-state") := by decide
  have hcommand : ∀ c, (ascii "get-state").head? = some c → isDigit c = false := by
    intro c hc
    cases hc
    decide
  have hs : newClient.socks.heap.get 0 = some
      { enqueue := .smartSocketEnqueue
        ready := .smartSocketReady
        close := .smartSocketClose
        peer := some 1 } := rfl
  exact ⟨_, _, hsend,
    host_command_agrees rfl htarget (by decide) hcommand (by decide) hsend hs rfl rfl⟩

end Adb
