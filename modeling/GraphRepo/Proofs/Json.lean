import GraphRepo.Json

/-!
# Equality of JSON values

Two JSON values are compared part by part.
-/

namespace GraphRepo.Json

mutual

def decEq : (v w : Json) → Decidable (v = w)
  | .null => fun
    | .null => isTrue rfl
    | .bool _ | .int _ | .float _ | .string _ | .array _ | .object _ => isFalse nofun
  | .bool a => fun
    | .bool b => decidable_of_iff (a = b) (by rw [bool.injEq])
    | .null | .int _ | .float _ | .string _ | .array _ | .object _ => isFalse nofun
  | .int m => fun
    | .int n => decidable_of_iff (m = n) (by rw [int.injEq])
    | .null | .bool _ | .float _ | .string _ | .array _ | .object _ => isFalse nofun
  | .float x => fun
    | .float y => decidable_of_iff (x = y) (by rw [float.injEq])
    | .null | .bool _ | .int _ | .string _ | .array _ | .object _ => isFalse nofun
  | .string s => fun
    | .string t => decidable_of_iff (s = t) (by rw [string.injEq])
    | .null | .bool _ | .int _ | .float _ | .array _ | .object _ => isFalse nofun
  | .array as => fun
    | .array bs =>
      have := decEqItems as bs
      decidable_of_iff (as = bs) (by rw [array.injEq])
    | .null | .bool _ | .int _ | .float _ | .string _ | .object _ => isFalse nofun
  | .object as => fun
    | .object bs =>
      have := decEqFields as bs
      decidable_of_iff (as = bs) (by rw [object.injEq])
    | .null | .bool _ | .int _ | .float _ | .string _ | .array _ => isFalse nofun

def decEqItems : (as bs : List Json) → Decidable (as = bs)
  | [], [] => isTrue rfl
  | a :: as, b :: bs =>
    have := decEq a b
    have := decEqItems as bs
    decidable_of_iff (a = b ∧ as = bs) (by rw [List.cons.injEq])
  | [], _ :: _ => isFalse nofun
  | _ :: _, [] => isFalse nofun

def decEqFields : (as bs : List (String × Json)) → Decidable (as = bs)
  | [], [] => isTrue rfl
  | (j, a) :: as, (k, b) :: bs =>
    have := decEq a b
    have := decEqFields as bs
    decidable_of_iff (j = k ∧ a = b ∧ as = bs) (by simp [and_assoc])
  | [], _ :: _ => isFalse nofun
  | _ :: _, [] => isFalse nofun

end

instance : DecidableEq Json := decEq

end GraphRepo.Json
