import K8sPlatform.Auth.RoleAdmin
import K8sPlatform.Auth.Service

namespace K8sPlatform.Auth

open Errcode

structure UpdateUserReq where
  displayName : Option String
  email : Option String
  phone : Option String
  status : Option Int
  deriving DecidableEq, Repr

structure UpdateUserStatusReq where
  status : Int
  deriving DecidableEq, Repr

/-- gorm's update of the status of the live rows with the id. -/
def Database.setUserStatus (db : Database) (id : Nat) (status : Int) : Database :=
  { db with
    users := db.users.map fun u =>
      if u.id == id && !u.deleted then { u with status := status } else u }

/-- The id that the handler answers with. -/
def updateUser (w : World) (h : Health) (idStr : String) (body : Body UpdateUserReq) :
    Except Error Nat × World :=
  match Validation.parseUint64 idStr with
  | none => (.error invalidUserId, w)
  | some id =>
    match body with
    | .error err => (.error (.new .invalidArgument err), w)
    | .ok req =>
      match h.db with
      | some err => (.error (.wrap .databaseError err), w)
      | none =>
        match w.db.findUser id with
        | none => (.error userNotFound, w)
        | some _ =>
          if req.displayName.isNone && req.email.isNone && req.phone.isNone &&
              req.status.isNone then (.ok id, w)
          else
            let updated := match req.status with
              | none => w
              | some status => { w with db := w.db.setUserStatus id status }
            (.ok id, Service.invalidateUserPermissionCache updated h id)

/-- A status of 0 fails the `required` check, so this handler cannot set it. -/
def updateUserStatus (w : World) (h : Health) (idStr : String)
    (body : Body UpdateUserStatusReq) : Except Error (Nat × Int) × World :=
  match Validation.parseUint64 idStr with
  | none => (.error invalidUserId, w)
  | some id =>
    match body with
    | .error err => (.error (.new .invalidArgument err), w)
    | .ok req =>
      match Validation.check "updateUserStatusReq"
          [⟨"Status", [("required", req.status != 0)]⟩] with
      | some err => (.error (.new .invalidArgument err), w)
      | none =>
        match h.db with
        | some err => (.error (.wrap .databaseError err), w)
        | none =>
          if w.db.users.any fun u => u.id == id && !u.deleted then
            (.ok (id, req.status), Service.invalidateUserPermissionCache
              { w with db := w.db.setUserStatus id req.status } h id)
          else (.error userNotFound, w)

end K8sPlatform.Auth
