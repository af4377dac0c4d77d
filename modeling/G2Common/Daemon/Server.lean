import G2Common.Transition

/-!
The server thread of the gpsone daemon pipe: `loc_eng_dmn_conn_glue_msgrcv`
reads a message in two reads, `loc_api_server_proc` dispatches it, and
`thelper_main` repeats this until a call fails. Writes of whole frames come in
between the reads in any order. Sizes are those of the 32 bit target.
-/

namespace G2Common.Daemon

open Transition

def sizeofMsgsz : Nat := 4

def sizeofCtrlMsgbuf : Nat := 112

/-- The size of the buffer in `loc_api_server_proc`. -/
def msgbufsz : Nat := sizeofCtrlMsgbuf + 256

/-- Where `ctrl_type` is in a `ctrl_msgbuf`. -/
def offsetofCtrlType : Nat := 12

def GPSONE_LOC_API_IF_REQUEST : UInt8 := 0xF0

def GPSONE_LOC_API_IF_RELEASE : UInt8 := 0xF1

/-- What `read` transfers at most. -/
def maxRwCount : Nat := 0x7ffff000

/-- What is written to the pipe at once. It has a first field at least. -/
structure Frame where
  bytes : List UInt8
  hasSize : sizeofMsgsz ≤ bytes.length
  deriving DecidableEq, Repr

/-- The `msgsz` field of a message, in the byte order of the target. -/
def msgsz (message : List UInt8) : UInt32 :=
  (message.take sizeofMsgsz).foldr (fun byte rest => byte.toUInt32 + 256 * rest) 0

def WellFormed (frame : Frame) : Prop :=
  (msgsz frame.bytes).toNat = frame.bytes.length ∧ frame.bytes.length ≤ msgbufsz

instance (frame : Frame) : Decidable (WellFormed frame) :=
  inferInstanceAs (Decidable (_ ∧ _))

/-- `loc_eng_dmn_conn_glue_piperead`: the bytes read and the pipe without them,
`none` where the call blocks. -/
def piperead (sz : UInt32) (pipe : List UInt8) : Option (List UInt8 × List UInt8) :=
  if sz ≠ 0 ∧ pipe = [] then none
  else some (pipe.splitAt (min sz.toNat maxRwCount))

inductive Handler where
  | ifRequest | ifRelease
  deriving DecidableEq, Repr

/-- The `switch` of `loc_api_server_proc`. -/
def dispatch (ctrl_type : UInt8) : Option Handler :=
  if ctrl_type = GPSONE_LOC_API_IF_REQUEST then some .ifRequest
  else if ctrl_type = GPSONE_LOC_API_IF_RELEASE then some .ifRelease
  else none

/-- A message that was received: the buffer, the length that `msgrcv` returned
and the handler that was called with them. -/
structure Served where
  pmsg : List UInt8
  length : Int
  handler : Option Handler
  deriving DecidableEq, Repr

def Served.message (served : Served) : List UInt8 := served.pmsg.take served.length.toNat

/-- Where the thread is in `msgrcv`: before the read of the size, or before the
read of the rest, with the block that `malloc` returned and the size field. -/
inductive Phase where
  | size
  | rest (block size : List UInt8)
  deriving DecidableEq, Repr

/-- `written` are the frames in the order in which they were written. -/
structure Server where
  pipe : List UInt8
  phase : Phase
  threadExit : Bool
  served : List Served
  written : List Frame
  deriving DecidableEq, Repr

def start : Server := ⟨[], .size, false, [], []⟩

/-- A read of the server thread. `block` is the memory that `malloc` returns at
the start of `loc_api_server_proc`, as far as it goes. -/
inductive Input where
  | write (frame : Frame)
  | read (block : List UInt8)
  deriving DecidableEq, Repr

/-- `msgrcv` up to its second read. On an error `loc_api_server_proc` returns
-1, and the loop of `thelper_main` ends. -/
def Server.readSize (s : Server) (block : List UInt8) : Server :=
  match piperead (UInt32.ofNat sizeofMsgsz) s.pipe with
  | none => s
  | some (size, pipe) =>
      if size.length ≠ sizeofMsgsz then { s with pipe := pipe, threadExit := true }
      else if msgbufsz < (msgsz size).toNat then { s with pipe := pipe, threadExit := true }
      else { s with pipe := pipe, phase := .rest block size }

/-- The second read of `msgrcv` and what `loc_api_server_proc` does with its
result. The subtraction wraps around, and the comparison is one of `int`s. -/
def Server.readRest (s : Server) (block size : List UInt8) : Server :=
  let sz := msgsz size - UInt32.ofNat sizeofMsgsz
  match piperead sz s.pipe with
  | none => s
  | some (bytes, pipe) =>
      let length := (msgsz size).toInt32.toInt
      if (bytes.length : Int) ≠ sz.toInt32.toInt then { s with pipe := pipe, threadExit := true }
      else if length ≤ 0 then { s with pipe := pipe, threadExit := true }
      else
        let pmsg := size ++ bytes ++ block.drop (size.length + bytes.length)
        { s with
          pipe := pipe
          phase := .size
          served := s.served ++ [⟨pmsg, length, dispatch (pmsg.getD offsetofCtrlType 0)⟩] }

def step (s : Server) : Input → Server
  | .write frame => { s with pipe := s.pipe ++ frame.bytes, written := s.written ++ [frame] }
  | .read block =>
      if s.threadExit then s
      else match s.phase with
        | .size => s.readSize block
        | .rest block size => s.readRest block size

end G2Common.Daemon
