import Mathlib.Logic.Relation
import UpperEcho.Session.Peek
import UpperEcho.Tool.Control
import UpperEcho.Tool.Daemon

/-! Every conversion between the library's error types keeps the error number (`Converts`), so the
tools' exit statuses do not depend on the path a failure took. -/
namespace UpperEcho

inductive Raised where
  | nix (e : Errno)
  | io (e : IoFault)
  | sys (e : SysError)
  | service (e : ServiceError)

def Raised.errno : Raised → Int
  | .nix e => e.code
  | .io e => e.errno
  | .sys e => e.errno
  | .service e => e.errno

inductive Converts : Raised → Raised → Prop
  | sysOfNix (e : Errno) : Converts (.nix e) (.sys (.syscall e))
  | sysOfIo (e : IoFault) : Converts (.io e) (.sys (.io e))
  | serviceOfNix (e : Errno) : Converts (.nix e) (.service (.syscall e))
  | serviceOfIo (e : IoFault) : Converts (.io e) (.service (.io e))
  | serviceOfSys (e : SysError) : Converts (.sys e) (.service (.ofSys e))
  | ioOfService (e : ServiceError) : Converts (.service e) (.io e.toIoFault)
  | ioOfPeek (e : SysError) : Converts (.sys e) (.io e.rawFault)

namespace ServiceError

theorem ofSys_cases (b : SysError) :
    (∃ f, b = .io f ∧ ofSys b = .io f) ∨ (∃ n, b = .syscall n ∧ ofSys b = .syscall n) ∨
      ofSys b = .sys b := by
  cases b with
  | io f => exact .inl ⟨f, rfl, rfl⟩
  | syscall n => exact .inr (.inl ⟨n, rfl, rfl⟩)
  | _ => exact .inr (.inr rfl)

theorem errno_toIoFault (e : ServiceError) : e.toIoFault.errno = e.errno := by
  cases e <;> rfl

theorem rawCode_toIoFault (e : ServiceError) :
    e.toIoFault.rawCode? = some e.errno ↔ ∀ k m, e ≠ .io (.custom k m) := by
  cases e with
  | io f => cases f <;> simp [toIoFault, errno, IoFault.rawCode?, IoFault.errno]
  | _ => simp [toIoFault, IoFault.rawCode?]

end ServiceError

theorem Converts.errno_eq {a b : Raised} (h : Converts a b) : a.errno = b.errno := by
  cases h with
  | serviceOfSys e => exact (ServiceError.errno_ofSys e).symm
  | ioOfService e => exact (ServiceError.errno_toIoFault e).symm
  | _ => rfl

theorem errno_eq_of_chain {a b : Raised} (h : Relation.ReflTransGen Converts a b) :
    a.errno = b.errno := by
  induction h with
  | refl => rfl
  | tail _ step ih => exact ih.trans step.errno_eq

theorem peekSize_error {t : PeekTarget} {f : IoFault} (h : peekSize t = .error f) :
    ∃ b, nextDatagramSize t = .error b ∧ Converts (.sys b) (.io f) := by
  unfold peekSize at h
  cases peek : nextDatagramSize t with
  | ok n =>
    rw [peek] at h
    cases h
  | error b =>
    rw [peek] at h
    cases h
    exact ⟨b, rfl, .ioOfPeek b⟩

theorem errnoSurvivesConversions :
    (∀ b : SysError, (ServiceError.ofSys b).errno = b.errno ∧
      ((∃ f, b = .io f ∧ ServiceError.ofSys b = .io f) ∨
        (∃ n, b = .syscall n ∧ ServiceError.ofSys b = .syscall n) ∨
        ServiceError.ofSys b = .sys b)) ∧
    (∀ e : ServiceError, (e.toIoFault.rawCode? = some e.errno ↔ ∀ k m, e ≠ .io (.custom k m)) ∧
      (ServiceError.io e.toIoFault).errno = e.errno) ∧
    (∀ a b, Relation.ReflTransGen Converts a b → a.errno = b.errno) ∧
    (∀ a e e', Relation.ReflTransGen Converts a (.service e) →
      Relation.ReflTransGen Converts a (.service e') →
      Control.exitStatus e = Control.exitStatus e' ∧ Daemon.exitStatus e = Daemon.exitStatus e') ∧
    (∀ t f, peekSize t = .error f →
      ∃ b, nextDatagramSize t = .error b ∧ f.rawCode? = some b.errno ∧
        (ServiceError.io f).errno = b.errno) := by
  refine ⟨fun b => ⟨ServiceError.errno_ofSys b, ServiceError.ofSys_cases b⟩,
    fun e => ⟨ServiceError.rawCode_toIoFault e, ServiceError.errno_toIoFault e⟩,
    fun _ _ => errno_eq_of_chain, ?_, ?_⟩
  · intro a e e' he he'
    -- both ends carry the origin's number, and the statuses read only that
    have same : e.errno = e'.errno := (errno_eq_of_chain he).symm.trans (errno_eq_of_chain he')
    simp only [Control.exitStatus, Daemon.exitStatus, same, and_self]
  · intro t f h
    obtain ⟨b, peek, conv⟩ := peekSize_error h
    refine ⟨b, peek, ?_, ?_⟩
    · cases conv
      rfl
    · exact conv.errno_eq.symm

end UpperEcho
