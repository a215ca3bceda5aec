import RuntimeMux.Cri.PodSandbox

/-!
# Messages about images

Listing, inspecting, fetching and removing them.
-/

namespace RuntimeMux.Cri

open Wire

/-- Which images to list. -/
structure ImageFilter where
  image : Option ImageSpec := none

instance : Message ImageFilter where
  name := "ImageFilter"
  blank := {}
  fields := [.message 1 "image" (·.image) fun x m => { m with image := x }]

/-- Asks for the images that a filter selects. -/
structure ListImagesRequest where
  filter : Option ImageFilter := none

instance : Message ListImagesRequest where
  name := "ListImagesRequest"
  blank := {}
  fields := [.message 1 "filter" (·.filter) fun x m => { m with filter := x }]

/-- An image that a runtime holds. -/
structure Image where
  id : String := ""
  repoTags : List String := []
  repoDigests : List String := []
  size : UInt64 := 0
  uid : Option Int64Value := none
  username : String := ""

instance : Message Image where
  name := "Image"
  blank := {}
  fields := [.one 1 "id" (·.id) fun x m => { m with id := x },
    .texts 2 "repo_tags" (·.repoTags) fun x m => { m with repoTags := x },
    .texts 3 "repo_digests" (·.repoDigests) fun x m => { m with repoDigests := x },
    .one 4 "size" (·.size) fun x m => { m with size := x },
    .message 5 "uid" (·.uid) fun x m => { m with uid := x },
    .one 6 "username" (·.username) fun x m => { m with username := x }]

/-- A list of images. -/
structure ListImagesResponse where
  images : List Image := []

instance : Message ListImagesResponse where
  name := "ListImagesResponse"
  blank := {}
  fields := [.messages 1 "images" (·.images) fun x m => { m with images := x }]

/-- Asks about an image. -/
structure ImageStatusRequest where
  image : Option ImageSpec := none
  verbose : Bool := false

instance : Message ImageStatusRequest where
  name := "ImageStatusRequest"
  blank := {}
  fields := [.message 1 "image" (·.image) fun x m => { m with image := x },
    .one 2 "verbose" (·.verbose) fun x m => { m with verbose := x }]

/-- The image that was asked about, if the runtime holds it. -/
structure ImageStatusResponse where
  image : Option Image := none
  info : TextMap := .empty

instance : Message ImageStatusResponse where
  name := "ImageStatusResponse"
  blank := {}
  fields := [.message 1 "image" (·.image) fun x m => { m with image := x },
    .map 2 "info" (·.info) fun x m => { m with info := x }]

/-- The credentials for an image registry. -/
structure AuthConfig where
  username : String := ""
  password : String := ""
  auth : String := ""
  serverAddress : String := ""
  identityToken : String := ""
  registryToken : String := ""

instance : Message AuthConfig where
  name := "AuthConfig"
  blank := {}
  fields := [.one 1 "username" (·.username) fun x m => { m with username := x },
    .one 2 "password" (·.password) fun x m => { m with password := x },
    .one 3 "auth" (·.auth) fun x m => { m with auth := x },
    .one 4 "server_address" (·.serverAddress) fun x m => { m with serverAddress := x },
    .one 5 "identity_token" (·.identityToken) fun x m => { m with identityToken := x },
    .one 6 "registry_token" (·.registryToken) fun x m => { m with registryToken := x }]

/-- Fetches an image from a registry. -/
structure PullImageRequest where
  image : Option ImageSpec := none
  auth : Option AuthConfig := none
  sandboxConfig : Option PodSandboxConfig := none

instance : Message PullImageRequest where
  name := "PullImageRequest"
  blank := {}
  fields := [.message 1 "image" (·.image) fun x m => { m with image := x },
    .message 2 "auth" (·.auth) fun x m => { m with auth := x },
    .message 3 "sandbox_config" (·.sandboxConfig) fun x m => { m with sandboxConfig := x }]

/-- The reference of the image that was fetched. -/
structure PullImageResponse where
  imageRef : String := ""

instance : Message PullImageResponse where
  name := "PullImageResponse"
  blank := {}
  fields := [.one 1 "image_ref" (·.imageRef) fun x m => { m with imageRef := x }]

/-- Removes an image. -/
structure RemoveImageRequest where
  image : Option ImageSpec := none

instance : Message RemoveImageRequest where
  name := "RemoveImageRequest"
  blank := {}
  fields := [.message 1 "image" (·.image) fun x m => { m with image := x }]

/-- Confirms that an image was removed. -/
structure RemoveImageResponse where

instance : Message RemoveImageResponse where
  name := "RemoveImageResponse"
  blank := {}
  fields := []

end RuntimeMux.Cri
