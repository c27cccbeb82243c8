/-!
A file opened for reading: its bytes, and the position where the next reading starts.
-/

namespace Exif

/-- An open file. The position may lie beyond the end. -/
structure OpenFile where
  bytes : List UInt8
  position : Nat

namespace OpenFile

def seek (f : OpenFile) (position : Nat) : OpenFile := { f with position := position }

def read (f : OpenFile) (count : Nat) : List UInt8 × OpenFile :=
  let bytes := (f.bytes.drop f.position).take count
  (bytes, f.seek (f.position + bytes.length))

@[simp] theorem read_seek_fst (f : OpenFile) (p n : Nat) :
    ((f.seek p).read n).1 = (f.bytes.drop p).take n := rfl

@[simp] theorem read_seek_snd (f : OpenFile) (p n : Nat) :
    ((f.seek p).read n).2 = f.seek (p + ((f.bytes.drop p).take n).length) := rfl

end OpenFile

end Exif
