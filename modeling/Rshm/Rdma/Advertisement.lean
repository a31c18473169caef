import Rshm.Lib.Wire
import Rshm.Rdma.Delivery

/-!
# The advertisement on the wire

`make_message` stores three fields of `send_buf` in network order and
`server_recv` loads them from `recv_buf`.  The two hosts may differ in their
byte order.  The rest of the buffer, which `kmalloc` left as it was, is
carried along.
-/

namespace Rshm.Rdma

open Wire

/-- A `struct nmsg_data` as its bytes; those from `NmsgData.sizeof` on are
behind it. -/
abbrev NmsgBytes := Nat → UInt8

/-- `offsetof(struct nmsg_data, ...)` of the three fields. -/
def NmsgData.bufOffset : Nat := 32

def NmsgData.rkeyOffset : Nat := 40

def NmsgData.sizeOffset : Nat := 44

/-- `htonl` and `ntohl` of a host. -/
def htonl (order : ByteOrder) (word : UInt32) : UInt32 :=
  .ofNat (order.swap 4 word.toNat)

/-- `htonll` and `ntohll`. -/
def htonll (order : ByteOrder) (word : UInt64) : UInt64 :=
  .ofNat (order.swap 8 word.toNat)

/-- The stores of `make_message`. -/
def NmsgData.encode (order : ByteOrder) (data : NmsgData)
    (bytes : NmsgBytes) : NmsgBytes :=
  let bytes := put bufOffset
    (order.store 8 (htonll order data.buf).toNat) bytes
  let bytes := put rkeyOffset
    (order.store 4 (htonl order data.rkey).toNat) bytes
  put sizeOffset (order.store 4 (htonl order data.size).toNat) bytes

/-- The loads of `server_recv`. -/
def NmsgData.decode (order : ByteOrder) (bytes : NmsgBytes) : NmsgData where
  rkey := htonl order (.ofNat (order.load (get rkeyOffset 4 bytes)))
  buf := htonll order (.ofNat (order.load (get bufOffset 8 bytes)))
  size := htonl order (.ofNat (order.load (get sizeOffset 4 bytes)))

@[simp] theorem htonl_toNat (order : ByteOrder) (word : UInt32) :
    (htonl order word).toNat = order.swap 4 word.toNat := by
  have bound := order.swap_lt 4 word.toNat
  rw [htonl, UInt32.toNat_ofNat', Nat.mod_eq_of_lt (by omega)]

@[simp] theorem htonll_toNat (order : ByteOrder) (word : UInt64) :
    (htonll order word).toNat = order.swap 8 word.toNat := by
  have bound := order.swap_lt 8 word.toNat
  rw [htonll, UInt64.toNat_ofNat', Nat.mod_eq_of_lt (by omega)]

/-- A word in network order, stored on one host and loaded on the other. -/
theorem ntohl_htonl (sender receiver : ByteOrder) (word : UInt32) :
    htonl receiver (.ofNat (receiver.load
      (sender.store 4 (htonl sender word).toNat))) = word := by
  apply UInt32.toNat_inj.mp
  have fits : word.toNat < 256 ^ 4 := word.toNat_lt
  have bound : receiver.load (sender.store 4 (sender.swap 4 word.toNat)) <
      2 ^ 32 := by
    have bound := value_lt
      (receiver.arrange (sender.store 4 (sender.swap 4 word.toNat)))
    rw [ByteOrder.length_arrange, ByteOrder.length_store] at bound
    exact bound
  rw [htonl_toNat, htonl_toNat, UInt32.toNat_ofNat', Nat.mod_eq_of_lt bound]
  exact receiver.swap_load sender fits

theorem ntohll_htonll (sender receiver : ByteOrder) (word : UInt64) :
    htonll receiver (.ofNat (receiver.load
      (sender.store 8 (htonll sender word).toNat))) = word := by
  apply UInt64.toNat_inj.mp
  have fits : word.toNat < 256 ^ 8 := word.toNat_lt
  have bound : receiver.load (sender.store 8 (sender.swap 8 word.toNat)) <
      2 ^ 64 := by
    have bound := value_lt
      (receiver.arrange (sender.store 8 (sender.swap 8 word.toNat)))
    rw [ByteOrder.length_arrange, ByteOrder.length_store] at bound
    exact bound
  rw [htonll_toNat, htonll_toNat, UInt64.toNat_ofNat', Nat.mod_eq_of_lt bound]
  exact receiver.swap_load sender fits

namespace NmsgData

theorem decode_congr (order : ByteOrder) {bytes other : NmsgBytes}
    (same : ∀ i, i < sizeof → other i = bytes i) :
    decode order other = decode order bytes := by
  have field (offset count : Nat) (inside : offset + count ≤ sizeof) :
      get offset count other = get offset count bytes :=
    get_congr fun i lower => same i (by omega)
  rw [decode, decode, field rkeyOffset 4 (by decide),
    field bufOffset 8 (by decide), field sizeOffset 4 (by decide)]

section Encoded

variable (order : ByteOrder) (data : NmsgData) (bytes : NmsgBytes)

theorem get_size : get sizeOffset 4 (encode order data bytes) =
    order.store 4 (htonl order data.size).toNat :=
  get_put _ _ (order.length_store ..)

theorem get_rkey : get rkeyOffset 4 (encode order data bytes) =
    order.store 4 (htonl order data.rkey).toNat := by
  rw [encode, get_put_apart _ (.inl (by decide))]
  exact get_put _ _ (order.length_store ..)

theorem get_buf : get bufOffset 8 (encode order data bytes) =
    order.store 8 (htonll order data.buf).toNat := by
  rw [encode, get_put_apart _ (.inl (by decide)),
    get_put_apart _ (.inl (by decide))]
  exact get_put _ _ (order.length_store ..)

end Encoded

theorem decode_encode (sender receiver : ByteOrder) (data : NmsgData)
    (bytes : NmsgBytes) :
    decode receiver (encode sender data bytes) = data := by
  rw [decode, get_rkey, get_buf, get_size, ntohl_htonl, ntohll_htonll,
    ntohl_htonl]

end NmsgData

/-- What `ib_post_send` is handed on either side, as far as keys, addresses
and lengths go. -/
inductive WorkRequest where
  | regMr (key : UInt32) (addr : UInt64) (length : UInt32)
  | rdmaRead (rkey : UInt32) (remoteAddr localAddr : UInt64)
      (length lkey : UInt32)
  | localInv (invalidateRkey : UInt32)
  | sendWithInv (invalidateRkey : UInt32)
  deriving DecidableEq, Repr

/-- The part of `struct nmsg_client_handler` that `make_message` works on.
`rkey` is that of `reg_mr`; `posted` is history. -/
structure Advertising where
  messageSize : Int32
  sendBuf : NmsgBytes
  rkey : UInt32
  key : UInt8
  posted : List WorkRequest

namespace Advertising

/-- `nmsg_rdma_rkey` of the client. -/
def nmsgRdmaRkey (client : Advertising) (buf : UInt64) : Advertising :=
  let key := client.key + 1
  let rkey := ibUpdateFastRegKey client.rkey key
  { client with
    key := key
    rkey := rkey
    posted := client.posted ++
      [.regMr rkey buf client.messageSize.toUInt32] }

def makeMessage (client : Advertising) (order : ByteOrder) (buf : UInt64) :
    Advertising :=
  let client := client.nmsgRdmaRkey buf
  { client with
    sendBuf := NmsgData.encode order
      ⟨buf, client.rkey, client.messageSize.toUInt32⟩ client.sendBuf }

end Advertising

theorem toUInt8_ibUpdateFastRegKey (rkey : UInt32) (key : UInt8) :
    (ibUpdateFastRegKey rkey key).toUInt8 = key := by
  have cleared : (0xffffff00 : UInt32).toUInt8 = 0 := rfl
  rw [ibUpdateFastRegKey, UInt32.toUInt8_or, UInt32.toUInt8_and, cleared,
    UInt8.toUInt8_toUInt32, UInt8.and_zero, UInt8.zero_or]

/-- Two updates in a row never give the same key, also when the counter
wraps. -/
theorem ibUpdateFastRegKey_next (rkey other : UInt32) (key : UInt8) :
    ibUpdateFastRegKey other (key + 1) ≠ ibUpdateFastRegKey rkey key := by
  intro same
  have low := congrArg UInt32.toUInt8 same
  rw [toUInt8_ibUpdateFastRegKey, toUInt8_ibUpdateFastRegKey] at low
  have value := congrArg UInt8.toNat low
  have bound := key.toNat_lt
  rw [UInt8.toNat_add] at value
  simp only [UInt8.toNat_ofNat] at value
  omega

namespace Advertising

/-- What `server_recv` makes of the buffer that `make_message` filled. -/
theorem decode_makeMessage (client : Advertising)
    (clientOrder serverOrder : ByteOrder) (buf : UInt64)
    {recvBuf : NmsgBytes}
    (arrived : ∀ i, i < NmsgData.sizeof →
      recvBuf i = (client.makeMessage clientOrder buf).sendBuf i) :
    NmsgData.decode serverOrder recvBuf =
      ⟨buf, (client.makeMessage clientOrder buf).rkey,
        client.messageSize.toUInt32⟩ := by
  rw [NmsgData.decode_congr serverOrder arrived]
  exact NmsgData.decode_encode clientOrder serverOrder _ _

end Advertising

end Rshm.Rdma
