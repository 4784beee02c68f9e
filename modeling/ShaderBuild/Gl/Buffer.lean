import ShaderBuild.Text.Utf8

/-!
A buffer of zeros handed to GL, which writes at its front. Only what was written is kept: the rest
is zeros up to the size, however large that is.
-/

set_option autoImplicit false
set_option relaxedAutoImplicit false

namespace ShaderBuild.Gl

structure Buffer where
  size : Nat
  written : Bytes

namespace Buffer

/-- All bytes of the buffer. -/
def toList (buffer : Buffer) : Bytes :=
  buffer.written.take buffer.size ++ List.replicate (buffer.size - buffer.written.length) 0

/-- The first `count` bytes, fewer if the buffer is smaller. -/
def front (buffer : Buffer) (count : Nat) : Bytes :=
  let kept := min count buffer.size
  buffer.written.take kept ++ List.replicate (kept - buffer.written.length) 0

@[simp]
theorem length_toList (buffer : Buffer) : buffer.toList.length = buffer.size := by
  simp only [toList, List.length_append, List.length_take, List.length_replicate]
  omega

theorem front_eq_take (buffer : Buffer) (count : Nat) :
    buffer.front count = buffer.toList.take count := by
  simp only [front, toList, List.take_append, List.take_take, List.take_replicate,
    List.length_take]
  congr 2
  omega

theorem length_front (buffer : Buffer) (count : Nat) :
    (buffer.front count).length = min count buffer.size := by
  rw [front_eq_take, List.length_take, length_toList]

end Buffer

/-- How many bytes to believe: what was reported, kept between zero and `limit`. With a limit below
zero these bounds cross and a clamp between them is not defined; nothing is believed then. It takes
a buffer of at least 2³¹ bytes to get there, and no length that GL reports asks for one. -/
def believed (reported : Int32) (limit : Int32) : Nat :=
  (max 0 (min reported.toInt limit.toInt)).toNat

end ShaderBuild.Gl
