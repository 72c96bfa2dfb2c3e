import Journal.Bytes.Input

set_option autoImplicit false

namespace Journal

/-- Bytes of which only the first `size` can be read. -/
structure Window where
  bytes : List UInt8
  size : Nat
  size_le : size ≤ bytes.length

namespace Window

def ofList (bytes : List UInt8) : Window := ⟨bytes, bytes.length, Nat.le_refl _⟩

def contents (window : Window) : List UInt8 := window.bytes.take window.size

def drop (count : Nat) (window : Window) : Window :=
  ⟨window.bytes.drop count, window.size - count, by
    have := window.size_le
    simp only [List.length_drop]
    omega⟩

@[simp] theorem contents_ofList (bytes : List UInt8) : (ofList bytes).contents = bytes := by
  simp [ofList, contents]

@[simp] theorem contents_drop (count : Nat) (window : Window) :
    (window.drop count).contents = window.contents.drop count := by
  simp [drop, contents, List.drop_take]

@[simp] theorem size_drop (count : Nat) (window : Window) :
    (window.drop count).size = window.size - count := rfl

end Window

def Input.window (input : Input) (count : Nat) : Window :=
  ⟨input.bytes, min count input.size, by rw [input.size_eq]; omega⟩

@[simp] theorem Input.contents_window (input : Input) (count : Nat) :
    (input.window count).contents = input.bytes.take count := by
  simp [window, Window.contents, input.size_eq, List.take_eq_take_iff]

end Journal
