/-
  OnePass/Sample.lean
  ===================
  **The sample program** — a program with one of each construct.

      {
        int x;
        int i;
        int arr[5];
        x = 5;
        i = 2;
        arr[i] = x * 3;
        if (arr[i] > 10) {
          cout << "big";
        } else {
          cout << arr[2];
        }
        while (i > 0) {
          i = i - 1;
        }
        cout << x << endl;
      }

  `sample` makes the reports a parser would make on it, in source order.
-/
import OnePass.Action

namespace OnePass.Session

def sampleAssignments : Step Session Unit := do
  let _ ← act (declare "int" "x")
  let _ ← act (declare "int" "i")
  let _ ← act (declare "int" "arr[5]")
  let x ← act (resolve "x")
  let five ← act (intLiteral 5)
  act (assign x five)
  let i ← act (resolve "i")
  let two ← act (intLiteral 2)
  act (assign i two)
  let element ← act (resolve "arr[i]")
  let x ← act (resolve "x")
  let three ← act (intLiteral 3)
  let product ← act (apply .mul x three)
  act (assign element product)

def sampleChoice : Step Session Unit := do
  let element ← act (resolve "arr[i]")
  let ten ← act (intLiteral 10)
  let condition ← act (apply .greater element ten)
  let otherwise ← act (branchIfZero condition)
  act enterScope
  let big ← act (stringLiteral "big")
  act (write big)
  act leaveScope
  let finish ← act (branchThenLabel otherwise)
  act enterScope
  let fixed ← act (resolve "arr[2]")
  act (write fixed)
  act leaveScope
  let _ ← act (defineLabel (some finish))
  return ()

def sampleLoop : Step Session Unit := do
  let start ← act (defineLabel none)
  let i ← act (resolve "i")
  let zero ← act (intLiteral 0)
  let condition ← act (apply .greater i zero)
  let finish ← act (branchIfZero condition)
  act enterScope
  let target ← act (resolve "i")
  let i ← act (resolve "i")
  let one ← act (intLiteral 1)
  let decremented ← act (apply .sub i one)
  act (assign target decremented)
  act leaveScope
  act (branchAndLabel start finish)

def sample : Step Session Unit := do
  act enterScope
  sampleAssignments
  sampleChoice
  sampleLoop
  let x ← act (resolve "x")
  act (write x)
  act newline
  act leaveScope

end OnePass.Session
