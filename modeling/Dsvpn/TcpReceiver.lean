import Dsvpn.StepSystem
import Dsvpn.TcpConnection

namespace Dsvpn

open ProtocolHeader

/-!
# The client's receive coroutine over TCP

`TCPConnection::Receive` suspends twice, in the read of the header and in the
read of what follows it.  The coroutine is a step system: the client calls
it, pieces of the stream reach its pending read, the read may fail, and a
completed read resumes it.
-/

namespace IConnection

/-- A piece of the stream reaches the buffer of a pending read. -/
def receivePiece
    (self : IConnection)
    (op : ReadOp)
    (piece : List UInt8) : Option IConnection := do
  let buffer ←
    self.conn_recv_buffer.store? (op.offset + op.got) piece
  some { self with conn_recv_buffer := buffer }

end IConnection

/-- A value `Receive` returned, and what the caller finds in the buffer. -/
structure Returned where
  value : Int
  error : Option ErrorCode
  packet : List UInt8
  deriving Repr, DecidableEq

inductive ReceivePc where
  | idle
  | readHeader (op : ReadOp)
  | readPayload (op : ReadOp)
  deriving Repr, DecidableEq

structure TcpReceiver where
  connection : TCPConnection
  pc : ReceivePc
  returned : List Returned
  fault : Option Fault

inductive ReceiveEvent where
  | call
  | arrive (piece : List UInt8)
  | fail (error : ErrorCode)
  | resume
  deriving Repr, DecidableEq

namespace TcpReceiver

def create (connection : TCPConnection) : TcpReceiver where
  connection := connection
  pc := .idle
  returned := []
  fault := none

def setFault
    (self : TcpReceiver)
    (fault : Fault) : TcpReceiver :=
  { self with fault := some fault }

/-- Return to the caller. -/
def finish
    (self : TcpReceiver)
    (value : Int)
    (error : Option ErrorCode) : TcpReceiver :=
  { self with
    pc := .idle
    returned :=
      self.returned ++
        [⟨value, error,
          self.connection.conn_recv_buffer.slice Size value.toNat⟩] }

/-- From the call to the first suspension. -/
def Receive (self : TcpReceiver) : TcpReceiver :=
  match self.connection.conn_socket with
  | none => self.setFault .nullDereference
  | some _ => { self with pc := .readHeader (ReadOp.start 0 Size) }

/-- From the completion of the header read on. -/
def resumeHeader
    (aead : Aead 16)
    (self : TcpReceiver)
    (bytes_read : Nat)
    (error : Option ErrorCode) : TcpReceiver :=
  if bytes_read = 0 then
    self.finish 0 error
  else if self.connection.conn_socket = none then
    self.finish 0 error
  else
    let (header, payload_len) :=
      self.connection.protocol.DecryptHeader aead
        self.connection.conn_recv_buffer
    let opened : TcpReceiver :=
      { self with
        connection :=
          { self.connection with conn_recv_buffer := header } }
    if payload_len = 0 then
      opened.finish 0 error
    else
      { opened with pc := .readPayload (ReadOp.start Size payload_len) }

/-- From the completion of the payload read on. -/
def resumePayload
    (aead : Aead 16)
    (self : TcpReceiver)
    (bytes_read : Nat)
    (error : Option ErrorCode) : TcpReceiver :=
  if bytes_read = 0 then
    self.finish 0 error
  else
    match self.connection.protocol.DecryptPayload aead
        self.connection.conn_recv_buffer with
    | none =>
        self.setFault .outOfBounds
    | some (protocol, header, accepted) =>
        let opened : TcpReceiver :=
          { self with
            connection :=
              { self.connection with
                protocol := protocol
                conn_recv_buffer := header } }
        opened.finish
          (if accepted then (PAYLOAD_LENGTH header : Int) else 0) error

/-- A piece for the pending read `op`; `pc` says what that read is for. -/
def arrive
    (self : TcpReceiver)
    (pc : ReadOp → ReceivePc)
    (op : ReadOp)
    (piece : List UInt8) : Option TcpReceiver :=
  if op.Accepts piece then
    match self.connection.toIConnection.receivePiece op piece with
    | none =>
        some (self.setFault .outOfBounds)
    | some connection =>
        some
          { self with
            connection :=
              { self.connection with toIConnection := connection }
            pc := pc (op.receive piece) }
  else
    none

def step
    (aead : Aead 16)
    (self : TcpReceiver)
    (event : ReceiveEvent) : Option TcpReceiver :=
  if self.fault.isSome then
    none
  else
    match self.pc, event with
    | .idle, .call =>
        some self.Receive
    | .readHeader op, .arrive piece =>
        self.arrive .readHeader op piece
    | .readPayload op, .arrive piece =>
        self.arrive .readPayload op piece
    | .readHeader op, .fail error =>
        some { self with pc := .readHeader (op.fail error) }
    | .readPayload op, .fail error =>
        some { self with pc := .readPayload (op.fail error) }
    | .readHeader op, .resume =>
        op.outcome.map (self.resumeHeader aead op.got)
    | .readPayload op, .resume =>
        op.outcome.map (self.resumePayload aead op.got)
    | _, _ =>
        none

end TcpReceiver

end Dsvpn
