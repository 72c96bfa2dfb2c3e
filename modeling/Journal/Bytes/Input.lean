set_option autoImplicit false

namespace Journal

structure Input where
  bytes : List UInt8
  size : Nat
  size_eq : size = bytes.length

namespace Input

def ofList (bytes : List UInt8) : Input := ⟨bytes, bytes.length, rfl⟩

def drop (count : Nat) (input : Input) : Input :=
  ⟨input.bytes.drop count, input.size - count, by simp [input.size_eq]⟩

@[ext] theorem ext {a b : Input} (same : a.bytes = b.bytes) : a = b := by
  obtain ⟨bytes, size, size_eq⟩ := a
  obtain ⟨bytes', size', size_eq'⟩ := b
  subst same size_eq size_eq'
  rfl

@[simp] theorem bytes_ofList (bytes : List UInt8) : (ofList bytes).bytes = bytes := rfl

@[simp] theorem ofList_bytes (input : Input) : ofList input.bytes = input := ext rfl

@[simp] theorem bytes_drop (count : Nat) (input : Input) :
    (input.drop count).bytes = input.bytes.drop count := rfl

@[simp] theorem size_drop (count : Nat) (input : Input) :
    (input.drop count).size = input.size - count := rfl

end Input

end Journal
