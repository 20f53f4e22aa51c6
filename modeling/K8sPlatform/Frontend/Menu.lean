import K8sPlatform.Frontend.Namespaces

/-! # The menu and the pages that it leads to -/

namespace K8sPlatform.Frontend

open Auth

def ROUTE_PERMS : List (String × List String) :=
  [("/clusters",
     ["cluster:list", "cluster:create", "cluster:update", "cluster:delete", "cluster:ping"]),
   ("/clusters/list", ["cluster:list"]),
   ("/clusters/import", ["cluster:create"]),
   ("/resources",
     ["resource:list", "resource:get", "resource:create", "resource:update", "resource:delete"]),
   ("/resources/list", ["resource:list"]),
   ("/resources/edit", ["resource:get"]),
   ("/resources/quota", ["resource:list"]),
   ("/backups", ["backup:list", "backup:create", "backup:restore", "backup:delete"]),
   ("/backups/list", ["backup:list"]),
   ("/backups/create", ["backup:create"]),
   ("/rbac", ["user:manage", "role:manage"]),
   ("/rbac/users", ["user:manage"]),
   ("/rbac/roles", ["role:manage"]),
   ("/audit", ["audit:list"]),
   ("/audit/list", ["audit:list"]),
   ("/helm", ["helm:view", "helm:install", "helm:uninstall", "helm:rollback"]),
   ("/helm/list", ["helm:view"]),
   ("/helm/repos", ["helm:view"]),
   ("/pods/logs", ["resource:get", "resource:list"]),
   ("/ops/compare", ["resource:get"])]

theorem routePerms_plain : ∀ entry ∈ ROUTE_PERMS, entry.2 ≠ [] ∧
    ∀ code ∈ entry.2, code.toList.head? ≠ some ':' := by
  decide +kernel

/-! ## The menu -/

inductive MenuRoute where
  | mk (path : String) (routes : List MenuRoute)

def MenuRoute.path : MenuRoute → String
  | mk path _ => path

def MenuRoute.routes : MenuRoute → List MenuRoute
  | mk _ routes => routes

def leaf (path : String) : MenuRoute := ⟨path, []⟩

def rawRoutes : List MenuRoute :=
  [leaf "/dashboard",
   ⟨"/clusters", [leaf "/clusters/list", leaf "/clusters/import"]⟩,
   ⟨"/resources", [leaf "/resources/list", leaf "/resources/quota"]⟩,
   ⟨"/backups", [leaf "/backups/list", leaf "/backups/create"]⟩,
   ⟨"/ops", [leaf "/pods/logs", leaf "/ops/compare"]⟩,
   ⟨"/rbac", [leaf "/rbac/users", leaf "/rbac/roles"]⟩,
   ⟨"/audit", [leaf "/audit/list"]⟩,
   ⟨"/helm", [leaf "/helm/list", leaf "/helm/repos"]⟩]

/-- Without an entry in the table a leaf is shown, and an empty submenu is not. -/
def permitted (hasAnyPerm : List String → Bool) (path : String) (otherwise : Bool) : Bool :=
  match ROUTE_PERMS.lookup path with
  | none | some [] => otherwise
  | some perms => hasAnyPerm perms

mutual

/-- What the loop adds for one route. -/
def filterRoute (hasAnyPerm : List String → Bool) : MenuRoute → List MenuRoute
  | ⟨path, routes⟩ =>
      match routes, filterRoutes hasAnyPerm routes with
      | [], _ => if permitted hasAnyPerm path true then [leaf path] else []
      | _ :: _, [] => if permitted hasAnyPerm path false then [leaf path] else []
      | _ :: _, child :: children => [⟨path, child :: children⟩]

def filterRoutes (hasAnyPerm : List String → Bool) : List MenuRoute → List MenuRoute
  | [] => []
  | route :: rest => filterRoute hasAnyPerm route ++ filterRoutes hasAnyPerm rest

end

def filterRoutesByPermission (routes : List MenuRoute) (hasAnyPerm : List String → Bool)
    (isPlatformAdmin : Bool) : List MenuRoute :=
  if isPlatformAdmin then routes else filterRoutes hasAnyPerm routes

mutual

def MenuRoute.links : MenuRoute → List String
  | ⟨path, routes⟩ =>
      match routes, links routes with
      | [], _ => [path]
      | _ :: _, inside => inside

/-- The entries without a submenu, which are links. -/
def links : List MenuRoute → List String
  | [] => []
  | route :: rest => route.links ++ links rest

end

mutual

def MenuRoute.submenus : MenuRoute → List MenuRoute
  | ⟨path, routes⟩ =>
      match routes, submenus routes with
      | [], _ => []
      | route :: rest, inside => ⟨path, route :: rest⟩ :: inside

/-- The entries with a submenu. -/
def submenus : List MenuRoute → List MenuRoute
  | [] => []
  | route :: rest => route.submenus ++ submenus rest

end

variable {hasAnyPerm : List String → Bool}

theorem links_append (rs rs' : List MenuRoute) : links (rs ++ rs') = links rs ++ links rs' := by
  induction rs with
  | nil => rfl
  | cons r rs ih => rw [List.cons_append, links, links, ih, List.append_assoc]

@[simp] theorem links_leaf (path : String) : links [leaf path] = [path] := rfl

/-- The submenu is shown as a link, for none of its own links is. -/
def Emptied (hasAnyPerm : List String → Bool) (menu : MenuRoute) : Prop :=
  filterRoutes hasAnyPerm menu.routes = [] ∧ permitted hasAnyPerm menu.path false = true

/-- What is left of some routes, when the links and submenus in them are these. -/
def Kept (hasAnyPerm : List String → Bool) (kept : List MenuRoute) (inside : List String)
    (menus : List MenuRoute) : Prop :=
  ∀ path, path ∈ links kept ↔
    (path ∈ inside ∧ permitted hasAnyPerm path true = true) ∨
      ∃ menu ∈ menus, menu.path = path ∧ Emptied hasAnyPerm menu

theorem Kept.append {kept kept' : List MenuRoute} {inside inside' : List String}
    {menus menus' : List MenuRoute} (h : Kept hasAnyPerm kept inside menus)
    (h' : Kept hasAnyPerm kept' inside' menus') :
    Kept hasAnyPerm (kept ++ kept') (inside ++ inside') (menus ++ menus') := by
  intro path
  rw [links_append, List.mem_append, h path, h' path]
  simp only [List.mem_append, or_and_right, exists_or]
  exact or_or_or_comm

theorem kept_leaf (path : String) :
    Kept hasAnyPerm (filterRoute hasAnyPerm (leaf path)) [path] [] := by
  intro shown
  rw [leaf, filterRoute]
  by_cases own : permitted hasAnyPerm path true = true
  · rw [if_pos own]
    constructor
    · intro mem
      obtain rfl := List.mem_singleton.1 mem
      exact .inl ⟨List.mem_singleton_self _, own⟩
    · rintro (⟨mem, -⟩ | ⟨_, none_, -⟩)
      · exact mem
      · exact absurd none_ List.not_mem_nil
  · rw [if_neg own]
    constructor
    · exact fun mem => absurd mem List.not_mem_nil
    · rintro (⟨mem, kept⟩ | ⟨_, none_, -⟩)
      · exact absurd (List.mem_singleton.1 mem ▸ kept) own
      · exact absurd none_ List.not_mem_nil

theorem filterRoute_menu (path : String) (route : MenuRoute) (routes : List MenuRoute) :
    filterRoute hasAnyPerm ⟨path, route :: routes⟩ =
      match filterRoutes hasAnyPerm (route :: routes) with
      | [] => if permitted hasAnyPerm path false then [leaf path] else []
      | child :: children => [⟨path, child :: children⟩] := by
  cases kept : filterRoutes hasAnyPerm (route :: routes) <;> simp only [filterRoute, kept]

theorem Kept.menu {path : String} {route : MenuRoute} {routes : List MenuRoute}
    (within : Kept hasAnyPerm (filterRoutes hasAnyPerm (route :: routes)) (links (route :: routes))
      (submenus (route :: routes))) :
    Kept hasAnyPerm (filterRoute hasAnyPerm ⟨path, route :: routes⟩) (links (route :: routes))
      (⟨path, route :: routes⟩ :: submenus (route :: routes)) := by
  intro shown
  rw [List.exists_mem_cons_iff, Emptied, filterRoute_menu]
  specialize within shown
  cases kept : filterRoutes hasAnyPerm (route :: routes) with
  | nil =>
      rw [kept, links] at within
      obtain ⟨noLink, noMenu⟩ := not_or.1 (within.not.1 List.not_mem_nil)
      rw [or_iff_right noLink, or_iff_left noMenu]
      by_cases own : permitted hasAnyPerm path false = true
      · simp [own, MenuRoute.path, MenuRoute.routes, kept, eq_comm]
      · simp [own, MenuRoute.path, links]
  | cons child children =>
      have alone : links [⟨path, child :: children⟩] = links (child :: children) :=
        List.append_nil _
      have same : ¬(MenuRoute.path ⟨path, route :: routes⟩ = shown ∧
          filterRoutes hasAnyPerm (MenuRoute.routes ⟨path, route :: routes⟩) = [] ∧
          permitted hasAnyPerm (MenuRoute.path ⟨path, route :: routes⟩) false = true) := by
        rintro ⟨-, emptied, -⟩
        exact List.cons_ne_nil _ _ (kept.symm.trans emptied)
      rw [or_iff_right same, ← within, kept]
      exact iff_of_eq (congrArg _ alone)

mutual

theorem filterRoute_kept (hasAnyPerm : List String → Bool) : (route : MenuRoute) →
    Kept hasAnyPerm (filterRoute hasAnyPerm route) route.links route.submenus
  | ⟨path, []⟩ => kept_leaf path
  | ⟨_, route :: rest⟩ => (filterRoutes_kept hasAnyPerm (route :: rest)).menu

theorem filterRoutes_kept (hasAnyPerm : List String → Bool) : (routes : List MenuRoute) →
    Kept hasAnyPerm (filterRoutes hasAnyPerm routes) (links routes) (submenus routes)
  | [] => by
      intro path
      simp [filterRoutes, links, submenus]
  | route :: rest => by
      rw [filterRoutes, links, submenus]
      exact (filterRoute_kept hasAnyPerm route).append (filterRoutes_kept hasAnyPerm rest)

end

/-! ## The pages -/

/-- What stands at a path: a redirect, or a page with the permissions it is guarded with. -/
inductive RouteElement where
  | navigate (target : String)
  | page (perms : Option (List String))
  deriving DecidableEq

def guarded (path : String) : RouteElement := .page (ROUTE_PERMS.lookup path)

/-- The paths that the menu leads to. Those with parameters, `/login` and `/resources/workloads`,
which adds a query, are left out. -/
def router : List (String × RouteElement) :=
  [("/", .navigate "/dashboard"), ("/dashboard", .page none),
   ("/clusters", .navigate "/clusters/list"), ("/clusters/list", guarded "/clusters/list"),
   ("/clusters/import", guarded "/clusters/import"),
   ("/resources", .navigate "/resources/list"), ("/resources/list", guarded "/resources/list"),
   ("/resources/quota", guarded "/resources/quota"),
   ("/backups", .navigate "/backups/list"), ("/backups/list", guarded "/backups/list"),
   ("/backups/create", guarded "/backups/create"),
   ("/pods", .navigate "/pods/logs"), ("/pods/logs", guarded "/pods/logs"),
   ("/ops", .navigate "/ops/compare"), ("/ops/compare", guarded "/ops/compare"),
   ("/rbac", .navigate "/rbac/users"), ("/rbac/users", guarded "/rbac/users"),
   ("/rbac/roles", guarded "/rbac/roles"),
   ("/audit", .navigate "/audit/list"), ("/audit/list", guarded "/audit/list"),
   ("/helm", .navigate "/helm/list"), ("/helm/list", guarded "/helm/list"),
   ("/helm/repos", guarded "/helm/repos")]

/-- Where a redirect leads. -/
def landing (path : String) : String :=
  match router.lookup path with
  | some (.navigate target) => target
  | _ => path

/-- `RequirePerm`, once the profile is there. -/
def CurrentUser.requirePerm (u : CurrentUser) (perms : List String) : Bool :=
  u.isPlatformAdmin || u.hasAnyPerm perms

def CurrentUser.opens (u : CurrentUser) (path : String) : Bool :=
  match router.lookup (landing path) with
  | some (.page perms) => perms.all u.requirePerm
  | _ => false

def CurrentUser.menu (u : CurrentUser) : List MenuRoute :=
  filterRoutesByPermission rawRoutes u.hasAnyPerm u.isPlatformAdmin

theorem links_guarded : ∀ path ∈ links rawRoutes,
    router.lookup path = some (.page (ROUTE_PERMS.lookup path)) := by
  decide +kernel

/-- A submenu with permissions of its own leads to one of its links. -/
theorem submenus_redirect : ∀ menu ∈ submenus rawRoutes,
    menu.path ∉ links rawRoutes ∧
      (ROUTE_PERMS.lookup menu.path = none ∨
        landing menu.path ∈ links menu.routes ∧ landing menu.path ∈ links rawRoutes) := by
  decide +kernel

theorem landing_link {path : String} (link : path ∈ links rawRoutes) : landing path = path := by
  rw [landing, links_guarded path link]

theorem mem_of_lookup {path : String} {codes : List String}
    (found : ROUTE_PERMS.lookup path = some codes) : (path, codes) ∈ ROUTE_PERMS := by
  obtain ⟨before, after, split, -⟩ := List.lookup_eq_some_iff.1 found
  rw [split]
  exact List.mem_append_right _ List.mem_cons_self

theorem permitted_none {hasAnyPerm : List String → Bool} {path : String} {otherwise : Bool}
    (found : ROUTE_PERMS.lookup path = none) :
    permitted hasAnyPerm path otherwise = otherwise := by
  rw [permitted, found]

theorem permitted_some {hasAnyPerm : List String → Bool} {path : String} {otherwise : Bool}
    {codes : List String} (found : ROUTE_PERMS.lookup path = some codes) :
    permitted hasAnyPerm path otherwise = hasAnyPerm codes := by
  obtain ⟨some_, -⟩ := routePerms_plain _ (mem_of_lookup found)
  cases codes with
  | nil => exact absurd rfl some_
  | cons code codes => rw [permitted, found]

theorem opens_link (u : CurrentUser) {path : String} (link : path ∈ links rawRoutes) :
    u.opens path = permitted u.hasAnyPerm path true := by
  rw [CurrentUser.opens, landing_link link, links_guarded path link]
  dsimp only
  cases found : ROUTE_PERMS.lookup path with
  | none => rw [permitted_none found, Option.all_none]
  | some codes =>
      rw [permitted_some found, Option.all_some, CurrentUser.requirePerm, CurrentUser.hasAnyPerm,
        ← Bool.or_assoc, Bool.or_self]

theorem permitted_admin {u : CurrentUser} (admin : u.isPlatformAdmin = true) (path : String) :
    permitted u.hasAnyPerm path true = true := by
  cases found : ROUTE_PERMS.lookup path with
  | none => exact permitted_none found
  | some codes => rw [permitted_some found, CurrentUser.hasAnyPerm, admin, Bool.true_or]

/-- An emptied submenu leads to a page that is refused. -/
theorem opens_emptied {u : CurrentUser} {menu : MenuRoute} (mem : menu ∈ submenus rawRoutes)
    (emptied : Emptied u.hasAnyPerm menu) : u.opens menu.path = false := by
  obtain ⟨-, none_ | ⟨own, link⟩⟩ := submenus_redirect menu mem
  · exact absurd ((permitted_none none_).symm.trans emptied.2) Bool.false_ne_true
  · have refused := (filterRoutes_kept u.hasAnyPerm menu.routes (landing menu.path)).not.1
    rw [emptied.1] at refused
    have closed : ¬permitted u.hasAnyPerm (landing menu.path) true = true :=
      fun open_ => (not_or.1 (refused List.not_mem_nil)).1 ⟨own, open_⟩
    have same : u.opens menu.path = u.opens (landing menu.path) := by
      rw [CurrentUser.opens, CurrentUser.opens, landing_link link]
    rw [same, opens_link u link]
    exact Bool.eq_false_iff.2 closed

/-- The links that the pages of the menu have, and those that stand for a submenu. -/
theorem links_menu (u : CurrentUser) (path : String) :
    (path ∈ links rawRoutes → (path ∈ links u.menu ↔ u.opens path = true)) ∧
      (path ∈ links u.menu → path ∉ links rawRoutes → u.opens path = false) := by
  rw [CurrentUser.menu, filterRoutesByPermission]
  by_cases admin : u.isPlatformAdmin = true
  · rw [if_pos admin]
    constructor
    · intro link
      rw [opens_link u link, permitted_admin admin]
      exact iff_of_true link rfl
    · exact fun shown away => absurd shown away
  · rw [if_neg admin, filterRoutes_kept u.hasAnyPerm rawRoutes path]
    constructor
    · intro link
      rw [opens_link u link, and_iff_right link, or_iff_left]
      rintro ⟨menu, mem, rfl, -⟩
      exact (submenus_redirect menu mem).1 link
    · rintro (⟨link, -⟩ | ⟨menu, mem, rfl, emptied⟩) away
      · exact absurd link away
      · exact opens_emptied mem emptied

variable {orm : NamingStrategy} {db : Database} {userId : Nat}

theorem opens_iff_granted (pt : PermissionTree) {path : String} (link : path ∈ links rawRoutes) :
    (currentUser orm db userId pt).opens path = true ↔
      ∀ codes, ROUTE_PERMS.lookup path = some codes → ∃ code ∈ codes, pt.hasPerm code = true := by
  rw [opens_link _ link]
  cases found : ROUTE_PERMS.lookup path with
  | none =>
      rw [permitted_none found]
      exact iff_of_true rfl fun codes other => absurd other (by simp)
  | some codes =>
      obtain ⟨some_, later⟩ := routePerms_plain _ (mem_of_lookup found)
      rw [permitted_some found, hasAnyPerm_iff pt some_ later]
      simp only [Option.some.injEq, forall_eq']

/-- The menu has a link to a page just when the page opens, which is when the server grants one of
its permissions; what it shows in place of a submenu leads to a page that is refused. -/
theorem menu_leads_to_pages (pt : PermissionTree) :
    (∀ path ∈ links rawRoutes,
      (path ∈ links (currentUser orm db userId pt).menu ↔
        (currentUser orm db userId pt).opens path = true) ∧
      ((currentUser orm db userId pt).opens path = true ↔
        ∀ codes, ROUTE_PERMS.lookup path = some codes →
          ∃ code ∈ codes, pt.hasPerm code = true)) ∧
      ∀ path ∈ links (currentUser orm db userId pt).menu, path ∉ links rawRoutes →
        (currentUser orm db userId pt).opens path = false := by
  constructor
  · intro path link
    exact ⟨(links_menu _ path).1 link, opens_iff_granted pt link⟩
  · intro path shown
    exact (links_menu _ path).2 shown

/-- A tree with one permission, to read single resources. -/
def readsOne : PermissionTree := ⟨{"resource:get"}, [], false⟩

/-- Its user is sent from the menu to a page that is refused. -/
theorem reader_sent_away :
    "/resources" ∈ links (currentUser gormDefault switchedOff 7 readsOne).menu ∧
      (currentUser gormDefault switchedOff 7 readsOne).opens "/resources" = false := by
  have shown : "/resources" ∈ links (currentUser gormDefault switchedOff 7 readsOne).menu := by
    decide +kernel
  exact ⟨shown, (menu_leads_to_pages _).2 _ shown (by decide +kernel)⟩

end K8sPlatform.Frontend
