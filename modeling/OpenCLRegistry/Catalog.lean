import OpenCLRegistry.Record

/-!
# The catalog

The extensions and features that a compiler knows from the start, with their
metadata. A row is written as the kind of option it is: a plain extension, a
core feature of some versions, or an optional core feature of some versions.
-/
namespace OpenCLRegistry

structure CatalogRow extends Metadata where
  name : String
deriving DecidableEq

namespace CatalogRow

def extension (name : String) (since : UInt32) : CatalogRow :=
  { name, since }

def coreFeature (name : String) (since : UInt32) (versions : VersionSet) : CatalogRow :=
  { name, since, core := versions }

def optionalCoreFeature (name : String) (since : UInt32) (versions : VersionSet) : CatalogRow :=
  { name, since, optionalCore := versions }

end CatalogRow

def catalog : List CatalogRow :=
  [
    -- Version 1.0
    .coreFeature "cl_khr_byte_addressable_store" 100 .since11,
    .coreFeature "cl_khr_global_int32_base_atomics" 100 .since11,
    .coreFeature "cl_khr_global_int32_extended_atomics" 100 .since11,
    .coreFeature "cl_khr_local_int32_base_atomics" 100 .since11,
    .coreFeature "cl_khr_local_int32_extended_atomics" 100 .since11,
    .optionalCoreFeature "cl_khr_fp64" 100 .since12,
    .extension "cl_khr_fp16" 100,
    .extension "cl_khr_int64_base_atomics" 100,
    .extension "cl_khr_int64_extended_atomics" 100,
    .coreFeature "cl_khr_3d_image_writes" 100 (.only .v20),
    -- The embedded profile
    .extension "cles_khr_int64" 110,
    -- Version 1.2
    .extension "cl_khr_depth_images" 120,
    .extension "cl_khr_gl_msaa_sharing" 120,
    -- Version 2.0
    .extension "cl_khr_mipmap_image" 200,
    .extension "cl_khr_mipmap_image_writes" 200,
    .extension "cl_khr_srgb_image_writes" 200,
    .extension "cl_khr_subgroups" 200,
    -- Clang
    .extension "cl_clang_storage_class_specifiers" 100,
    .extension "__cl_clang_function_pointers" 100,
    .extension "__cl_clang_variadic_functions" 100,
    -- AMD
    .extension "cl_amd_media_ops" 100,
    .extension "cl_amd_media_ops2" 100,
    -- ARM
    .extension "cl_arm_integer_dot_product_int8" 120,
    .extension "cl_arm_integer_dot_product_accumulate_int8" 120,
    .extension "cl_arm_integer_dot_product_accumulate_int16" 120,
    .extension "cl_arm_integer_dot_product_accumulate_saturate_int8" 120,
    -- Intel
    .extension "cl_intel_subgroups" 120,
    .extension "cl_intel_subgroups_short" 120,
    .extension "cl_intel_device_side_avc_motion_estimation" 120,
    -- Optional features of version 3.0
    .optionalCoreFeature "__opencl_c_pipes" 200 (.only .v30),
    .optionalCoreFeature "__opencl_c_generic_address_space" 200 (.only .v30),
    .optionalCoreFeature "__opencl_c_work_group_collective_functions" 200 (.only .v30),
    .optionalCoreFeature "__opencl_c_atomic_order_acq_rel" 200 (.only .v30),
    .optionalCoreFeature "__opencl_c_atomic_order_seq_cst" 200 (.only .v30),
    .optionalCoreFeature "__opencl_c_atomic_scope_device" 200 (.only .v30),
    .optionalCoreFeature "__opencl_c_atomic_scope_all_devices" 200 (.only .v30),
    .optionalCoreFeature "__opencl_c_subgroups" 200 (.only .v30),
    .optionalCoreFeature "__opencl_c_3d_image_writes" 200 (.only .v30),
    .optionalCoreFeature "__opencl_c_device_enqueue" 200 (.only .v30),
    .optionalCoreFeature "__opencl_c_read_write_images" 200 (.only .v30),
    .optionalCoreFeature "__opencl_c_program_scope_global_variables" 200 (.only .v30),
    .optionalCoreFeature "__opencl_c_fp64" 120 (.only .v30),
    .optionalCoreFeature "__opencl_c_images" 100 (.only .v30)
  ]

end OpenCLRegistry
