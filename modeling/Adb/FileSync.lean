import Adb.Lib.Disk
import Adb.Lib.LittleEndian
import Adb.Path

/-!
# The sync protocol

`file_sync_protocol.h`: requests and replies are an id and a word, and what follows them. The service
is in `Adb.SyncService`, the client in `Adb.SyncClient`.
-/

namespace Adb.FileSync

open Lib List

def mkId (s : String) : UInt32 := word32 (ascii s)

def ID_LSTAT_V1 : UInt32 := mkId "STAT"
def ID_STAT_V2 : UInt32 := mkId "STA2"
def ID_LSTAT_V2 : UInt32 := mkId "LST2"
def ID_LIST : UInt32 := mkId "LIST"
def ID_SEND : UInt32 := mkId "SEND"
def ID_RECV : UInt32 := mkId "RECV"
def ID_DENT : UInt32 := mkId "DENT"
def ID_DONE : UInt32 := mkId "DONE"
def ID_DATA : UInt32 := mkId "DATA"
def ID_OKAY : UInt32 := mkId "OKAY"
def ID_FAIL : UInt32 := mkId "FAIL"
def ID_QUIT : UInt32 := mkId "QUIT"

def syncDataMax : ℕ := 64 * 1024

/-- A `SyncRequest`, or a `syncmsg` of the kind `data` or `status`. -/
def header (id word : UInt32) : Bytes := le32 id ++ le32 word

@[simp] lemma length_header (id word : UInt32) : (header id word).length = 8 := by
  simp [header]

def idOf (msg : Bytes) : UInt32 := word32 msg

def wordOf (msg : Bytes) : UInt32 := word32 (msg.drop 4)

@[simp] lemma idOf_header (id word : UInt32) : idOf (header id word) = id := word32_append id _

@[simp] lemma wordOf_header (id word : UInt32) : wordOf (header id word) = word := by
  have hdrop : (header id word).drop 4 = le32 word ++ [] := by
    rw [header, drop_left' length_le32, List.append_nil]
  rw [wordOf, hdrop, word32_append]

lemma header_idOf_wordOf {msg : Bytes} (h : msg.length = 8) :
    header (idOf msg) (wordOf msg) = msg := by
  have hid : le32 (idOf msg) = msg.take 4 := le32_word32 (by omega)
  have hword : le32 (wordOf msg) = (msg.drop 4).take 4 :=
    le32_word32 (by rw [length_drop]; omega)
  rw [header, hid, hword, take_of_length_le (l := msg.drop 4) (by rw [length_drop]; omega),
    take_append_drop]

def dataMessage (chunk : Bytes) : Bytes := header ID_DATA (UInt32.ofNat chunk.length) ++ chunk

lemma toNat_length_chunk {chunk : Bytes} (h : chunk.length ≤ syncDataMax) :
    (UInt32.ofNat chunk.length).toNat = chunk.length := by
  apply UInt32.toNat_ofNat_of_lt'
  show chunk.length < 4294967296
  have hle : chunk.length ≤ 64 * 1024 := h
  omega

def encodeFile (chunks : List Bytes) (word : UInt32) : Bytes :=
  chunks.flatMap dataMessage ++ header ID_DONE word

/-! ## Modes and errors -/

def S_IFMT : UInt32 := 0o170000
def S_IFLNK : UInt32 := 0o120000
def S_IFREG : UInt32 := 0o100000
def S_IFDIR : UInt32 := 0o040000
def isKind (kind mode : UInt32) : Bool := mode &&& S_IFMT = kind

structure Stat where
  dev : UInt64 := 0
  ino : UInt64 := 0
  mode : UInt32 := 0
  nlink : UInt32 := 0
  uid : UInt32 := 0
  gid : UInt32 := 0
  size : UInt64 := 0
  atime : UInt64 := 0
  mtime : UInt64 := 0
  ctime : UInt64 := 0
deriving DecidableEq, Repr

structure Attr where
  dev : UInt64 := 0
  ino : UInt64 := 0
  permissions : UInt32 := 0
  nlink : UInt32 := 0
  uid : UInt32 := 0
  gid : UInt32 := 0
  atime : UInt64 := 0
  mtime : UInt64 := 0
  ctime : UInt64 := 0
deriving DecidableEq, Repr

def kindMode : Node → UInt32
  | .file _ => S_IFREG
  | .link _ => S_IFLNK
  | .directory => S_IFDIR

def nodeSize : Node → UInt64
  | .file content => UInt64.ofNat content.length
  | .link target => UInt64.ofNat target.length
  | .directory => 0

def statOf (attr : Attr) (node : Node) : Stat :=
  { dev := attr.dev
    ino := attr.ino
    mode := kindMode node ||| (attr.permissions &&& 0o7777)
    nlink := attr.nlink
    uid := attr.uid
    gid := attr.gid
    size := nodeSize node
    atime := attr.atime
    mtime := attr.mtime
    ctime := attr.ctime }

lemma isKind_statOf (kind : UInt32) (attr : Attr) (node : Node) :
    isKind kind (statOf attr node).mode = decide (kindMode node = kind) := by
  have hsplit : ∀ k p m : UInt32,
      (k ||| (p &&& 0o7777)) &&& m = (k &&& m) ||| (p &&& (0o7777 &&& m)) := by
    intro k p m
    apply UInt32.toNat_inj.mp
    simp [Nat.and_or_distrib_right, Nat.and_assoc]
  have hzero : (0o7777 : UInt32) &&& S_IFMT = 0 := by decide
  have hkind : kindMode node &&& S_IFMT = kindMode node := by
    cases node with
    | file content => exact (show S_IFREG &&& S_IFMT = S_IFREG by decide)
    | link target => exact (show S_IFLNK &&& S_IFMT = S_IFLNK by decide)
    | directory => decide
  have hmode : (statOf attr node).mode &&& S_IFMT = kindMode node := by
    show (kindMode node ||| (attr.permissions &&& 0o7777)) &&& S_IFMT = kindMode node
    rw [hsplit, hzero, UInt32.and_zero, UInt32.or_zero, hkind]
  rw [isKind, hmode]

/-- `ERRNO_VALUES`: the errors that have a value on the wire. -/
def errnoValues : List (Errno × UInt32) :=
  [(.EACCES, 13), (.EEXIST, 17), (.EFAULT, 14), (.EFBIG, 27), (.EINTR, 4), (.EINVAL, 22),
    ( Errno.EIO, 5), (.EISDIR, 21), (.ELOOP, 40), (.EMFILE, 24), (.ENAMETOOLONG, 36), (.ENFILE, 23),
    (.ENOENT, 2), (.ENOMEM, 12), (.ENOSPC, 28), (.ENOTDIR, 20), (.EOVERFLOW, 75), (.EPERM, 1),
    (.EROFS, 30), (.ETXTBSY, 26)]

def errnoToWire (e : Errno) : UInt32 := (errnoValues.lookup e).getD 5

/-- `errno_from_wire`; the values are those of Linux, where both tables are the same. -/
def errnoFromWire (n : UInt32) : Errno :=
  ((errnoValues.find? fun x => x.2 = n).map (·.1)).getD Errno.EIO

def strerror : Errno → Bytes
  | .EACCES => ascii "Permission denied"
  | .EAGAIN => ascii "Resource temporarily unavailable"
  | .ECONNRESET => ascii "Connection reset by peer"
  | .EEXIST => ascii "File exists"
  | .EFAULT => ascii "Bad address"
  | .EFBIG => ascii "File too large"
  | .EINTR => ascii "Interrupted system call"
  | .EINVAL => ascii "Invalid argument"
  | Errno.EIO => ascii "Input/output error"
  | .EISDIR => ascii "Is a directory"
  | .ELOOP => ascii "Too many levels of symbolic links"
  | .EMFILE => ascii "Too many open files"
  | .ENAMETOOLONG => ascii "File name too long"
  | .ENFILE => ascii "Too many open files in system"
  | .ENOENT => ascii "No such file or directory"
  | .ENOMEM => ascii "Cannot allocate memory"
  | .ENOPROTOOPT => ascii "Protocol not available"
  | .ENOSPC => ascii "No space left on device"
  | .ENOTDIR => ascii "Not a directory"
  | .ENOTSUP => ascii "Operation not supported"
  | .EOVERFLOW => ascii "Value too large for defined data type"
  | .EPERM => ascii "Operation not permitted"
  | .EPIPE => ascii "Broken pipe"
  | .EROFS => ascii "Read-only file system"
  | .ETXTBSY => ascii "Text file busy"

/-! ## Messages with more than a word -/

def le64 (n : UInt64) : Bytes := leBytes 8 n.toNat

def statV2 (id error : UInt32) (st : Stat) : Bytes :=
  le32 id ++ le32 error ++ le64 st.dev ++ le64 st.ino ++ le32 st.mode ++ le32 st.nlink ++
    le32 st.uid ++ le32 st.gid ++ le64 st.size ++ le64 st.atime ++ le64 st.mtime ++ le64 st.ctime

def statV1 (mode size time : UInt32) : Bytes :=
  le32 ID_LSTAT_V1 ++ le32 mode ++ le32 size ++ le32 time

def dent (id mode size time namelen : UInt32) : Bytes :=
  le32 id ++ le32 mode ++ le32 size ++ le32 time ++ le32 namelen

def field32 (offset : ℕ) (msg : Bytes) : UInt32 := word32 (msg.drop offset)

def field64 (offset : ℕ) (msg : Bytes) : UInt64 :=
  UInt64.ofNat (leValue ((msg.drop offset).take 8))

def parseStatV2 (msg : Bytes) : Stat :=
  { dev := field64 8 msg
    ino := field64 16 msg
    mode := field32 24 msg
    nlink := field32 28 msg
    uid := field32 32 msg
    gid := field32 36 msg
    size := field64 40 msg
    atime := field64 48 msg
    mtime := field64 56 msg
    ctime := field64 64 msg }

def parseStatV1 (msg : Bytes) : Stat :=
  { mode := field32 4 msg
    size := (field32 8 msg).toUInt64
    mtime := (field32 12 msg).toUInt64
    ctime := (field32 12 msg).toUInt64 }

end Adb.FileSync
