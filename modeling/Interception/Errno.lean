/-!
Error numbers handed back to the caller of a file operation. They are
positive where the kernel makes them, but a filter may record any integer.
-/

namespace Interception

structure Errno where
  code : Int32
  deriving DecidableEq, Repr

namespace Errno

def EPERM : Errno := ⟨1⟩
def ENOENT : Errno := ⟨2⟩
def ESRCH : Errno := ⟨3⟩
def EINTR : Errno := ⟨4⟩
def EIO : Errno := ⟨5⟩
def ENOMEM : Errno := ⟨12⟩
def EACCES : Errno := ⟨13⟩
def EBUSY : Errno := ⟨16⟩
def EEXIST : Errno := ⟨17⟩
def ENODEV : Errno := ⟨19⟩
def EINVAL : Errno := ⟨22⟩
def ETIME : Errno := ⟨62⟩
def ECONNRESET : Errno := ⟨104⟩
def ERESTARTSYS : Errno := ⟨512⟩

def named : List (Errno × String) := [
  (EPERM, "EPERM"), (ENOENT, "ENOENT"), (ESRCH, "ESRCH"), (EINTR, "EINTR"), (EIO, "EIO"),
  (ENOMEM, "ENOMEM"), (EACCES, "EACCES"), (EBUSY, "EBUSY"), (EEXIST, "EEXIST"),
  (ENODEV, "ENODEV"), (EINVAL, "EINVAL"), (ETIME, "ETIME"), (ECONNRESET, "ECONNRESET"),
  (ERESTARTSYS, "ERESTARTSYS")]

def name? (errno : Errno) : Option String :=
  named.lookup errno

def render (errno : Errno) : String :=
  match errno.name? with
  | some name => name ++ " (" ++ toString errno.code ++ ")"
  | none => "errno " ++ toString errno.code

end Errno

end Interception
