import Adb.Lib.Outcome

/-!
# Why a process stops

Every modelled function returns its result in `Res`: it either comes back, or the process
stops for one of the reasons in `Halt`. The assertions of the source (`CHECK`, `fatal()`,
`LOG(FATAL)`) each have a name, so that a statement about aborts can say which one.
-/

namespace Adb

/-- The `CHECK`s of `adb.cpp`, `sockets.cpp`, `fdevent.cpp`, `transport.cpp`, `transport_fd.cpp`
and `types.h` that the modelled functions can reach. -/
inductive Check
  /-- `CHECK_EQ(p->payload.size(), p->msg.data_length)` in `handle_packet`. -/
  | packetLength
  /-- `CHECK_NE(0ULL, block->size())` in `IOVector::append` and `append_shared`. -/
  | appendEmpty
  /-- `CHECK_EQ(0ULL, end_offset_)` in `IOVector::append` and `append_shared`. -/
  | appendEndOffset
  /-- `CHECK_GE(size(), len)` in `IOVector::take_front`. -/
  | takeFrontSize
  /-- `CHECK_GE(first_block->size(), begin_offset_)` in `IOVector::take_front`. -/
  | takeFrontBegin
  /-- `CHECK(!chain_.empty())` in `IOVector::take_front`. -/
  | takeFrontChain
  /-- `CHECK_GE(chain_.front()->size(), bytes_taken)` in `IOVector::take_front`. -/
  | takeFrontTaken
  /-- `CHECK_GE(block->size(), begin_offset_)` in `IOVector::iterate_blocks`. -/
  | iterateBegin
  /-- `CHECK_GE(length, end_offset_)` in `IOVector::iterate_blocks`. -/
  | iterateEnd
  /-- `CHECK_EQ(sizeof(amessage), header_buf.size())` in `NonblockingFdConnection::Run`. -/
  | headerSize
  /-- `CHECK_EQ(static_cast<int>(sizeof(buf)), rc)` in `NonblockingFdConnection::Run`. -/
  | wakeSize
  /-- `CHECK(!write_buffer_.empty())` in `NonblockingFdConnection::DispatchWrites`. -/
  | writeBuffer
  /-- `CHECK_EQ(FDE_WRITE, s->fde->state & FDE_WRITE)` in `local_socket_close`. -/
  | closingWrite
  /-- `CHECK(fde->state & FDE_ACTIVE)` in `fdevent_set`. -/
  | fdeActive
  /-- `CHECK(it != g_poll_node_map.end())` in `fdevent_update`. -/
  | pollNode
  /-- `CHECK(fde->state & FDE_PENDING)` in `fdevent_call_fdfunc`. -/
  | fdePending
  /-- `CHECK_GT(t->ref_count, 0u)` in `transport_unref`. -/
  | refCount
  /-- `CHECK_GE(fd, 0)` in `fdevent_create`. -/
  | fdNonnegative
  /-- `CHECK(pair.second)` in `fdevent_create`. -/
  | installExisting
  /-- `CHECK_GT(pollfds.size(), 0u)` in `fdevent_process`. -/
  | pollfds
  /-- `CHECK(it != g_poll_node_map.end())` in `fdevent_process`. -/
  | processNode
  /-- `CHECK_EQ(fde->fd.get(), pollfd.fd)` in `fdevent_process`. -/
  | processFd
  /-- `CHECK(ev & FDE_READ)` in `fdevent_run_func`. -/
  | runFuncRead
  /-- `CHECK(run_queue_notify_fd.get() == -1)` in `fdevent_run_setup`. -/
  | notifyFd
deriving DecidableEq, Repr

/-- The calls of `fatal()` and `LOG(FATAL)` that the modelled functions can reach. -/
inductive Fatal
  /-- `fatal("local socket id overflow")` in `install_local_socket`. -/
  | socketIdOverflow
  /-- `fatal("invalid remote socket id (0)")` in `create_remote_socket`. -/
  | remoteSocketId
  /-- `fatal("destination oversized")` in `connect_to_remote`. -/
  | destinationOversized
  /-- `LOG(FATAL) << "Connection banner is too long"` in `send_connect`. -/
  | bannerTooLong
  /-- `LOG(FATAL) << "destroying fde not created by fdevent_create()"`. -/
  | fdeNotCreated
  /-- `LOG(FATAL) << "started multiple times"` in `BlockingConnectionAdapter::Start`. -/
  | startedTwice
  /-- `PLOG(FATAL) << "failed to empty run queue notify fd"` in `fdevent_run_func`. -/
  | notifyRead
deriving DecidableEq, Repr

inductive Halt
  | check (c : Check)
  | fatal (f : Fatal)
  /-- `std::string` built from a null pointer: `std::logic_error`, which nobody catches. -/
  | nullString
  | null
  /-- A deleted socket was used, or memory was read out of bounds. -/
  | wild
  | dangling
  | exit
  /-- The nesting of virtual calls the model follows was exceeded. -/
  | depth
deriving DecidableEq, Repr

abbrev Res (α : Type) := Except Halt α

def check (b : Bool) (c : Check) : Res Unit :=
  if b then pure () else throw (.check c)

@[simp] lemma check_true (c : Check) : check true c = .ok () := rfl

@[simp] lemma check_false (c : Check) : check false c = .error (.check c) := rfl

end Adb
