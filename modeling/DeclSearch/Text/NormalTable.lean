/-
# Normal form tables

The data behind the compatibility normal form: full decompositions, composition pairs and
combining classes.  A row is one number that packs several, five hexadecimal digits each.
-/

namespace DeclSearch
namespace Text

/-- The decompositions of the scripts below `U+2000`. -/
def scriptRows : List Nat := [
  0xa000020, 0x80002000308, 0x200061, 0x50002000304, 0x300032, 0x100033, 0x10002000301, 0x1003bc,
  0x30002000327, 0x100031, 0x10006f, 0x2000310204400034, 0x1000310204400032, 0x1000330204400034,
  0x20004100300, 0x10004100301, 0x10004100302, 0x10004100303, 0x10004100308, 0x1000410030a,
  0x20004300327, 0x10004500300, 0x10004500301, 0x10004500302, 0x10004500308, 0x10004900300,
  0x10004900301, 0x10004900302, 0x10004900308, 0x20004e00303, 0x10004f00300, 0x10004f00301,
  0x10004f00302, 0x10004f00303, 0x10004f00308, 0x30005500300, 0x10005500301, 0x10005500302,
  0x10005500308, 0x10005900301, 0x30006100300, 0x10006100301, 0x10006100302, 0x10006100303,
  0x10006100308, 0x1000610030a, 0x20006300327, 0x10006500300, 0x10006500301, 0x10006500302,
  0x10006500308, 0x10006900300, 0x10006900301, 0x10006900302, 0x10006900308, 0x20006e00303,
  0x10006f00300, 0x10006f00301, 0x10006f00302, 0x10006f00303, 0x10006f00308, 0x30007500300,
  0x10007500301, 0x10007500302, 0x10007500308, 0x10007900301, 0x20007900308, 0x10004100304,
  0x10006100304, 0x10004100306, 0x10006100306, 0x10004100328, 0x10006100328, 0x10004300301,
  0x10006300301, 0x10004300302, 0x10006300302, 0x10004300307, 0x10006300307, 0x1000430030c,
  0x1000630030c, 0x1000440030c, 0x1000640030c, 0x30004500304, 0x10006500304, 0x10004500306,
  0x10006500306, 0x10004500307, 0x10006500307, 0x10004500328, 0x10006500328, 0x1000450030c,
  0x1000650030c, 0x10004700302, 0x10006700302, 0x10004700306, 0x10006700306, 0x10004700307,
  0x10006700307, 0x10004700327, 0x10006700327, 0x10004800302, 0x10006800302, 0x30004900303,
  0x10006900303, 0x10004900304, 0x10006900304, 0x10004900306, 0x10006900306, 0x10004900328,
  0x10006900328, 0x10004900307, 0x2000490004a, 0x1000690006a, 0x10004a00302, 0x10006a00302,
  0x10004b00327, 0x10006b00327, 0x20004c00301, 0x10006c00301, 0x10004c00327, 0x10006c00327,
  0x10004c0030c, 0x10006c0030c, 0x10004c000b7, 0x10006c000b7, 0x30004e00301, 0x10006e00301,
  0x10004e00327, 0x10006e00327, 0x10004e0030c, 0x10006e0030c, 0x1002bc0006e, 0x30004f00304,
  0x10006f00304, 0x10004f00306, 0x10006f00306, 0x10004f0030b, 0x10006f0030b, 0x30005200301,
  0x10007200301, 0x10005200327, 0x10007200327, 0x1000520030c, 0x1000720030c, 0x10005300301,
  0x10007300301, 0x10005300302, 0x10007300302, 0x10005300327, 0x10007300327, 0x1000530030c,
  0x1000730030c, 0x10005400327, 0x10007400327, 0x1000540030c, 0x1000740030c, 0x30005500303,
  0x10007500303, 0x10005500304, 0x10007500304, 0x10005500306, 0x10007500306, 0x1000550030a,
  0x1000750030a, 0x1000550030b, 0x1000750030b, 0x10005500328, 0x10007500328, 0x10005700302,
  0x10007700302, 0x10005900302, 0x10007900302, 0x10005900308, 0x10005a00301, 0x10007a00301,
  0x10005a00307, 0x10007a00307, 0x10005a0030c, 0x10007a0030c, 0x100073, 0x210004f0031b,
  0x10006f0031b, 0xe000550031b, 0x1000750031b, 0x14000440005a0030c, 0x1000440007a0030c,
  0x1000640007a0030c, 0x10004c0004a, 0x10004c0006a, 0x10006c0006a, 0x10004e0004a, 0x10004e0006a,
  0x10006e0006a, 0x1000410030c, 0x1000610030c, 0x1000490030c, 0x1000690030c, 0x10004f0030c,
  0x10006f0030c, 0x1000550030c, 0x1000750030c, 0x1000550030800304, 0x1000750030800304,
  0x1000550030800301, 0x1000750030800301, 0x100055003080030c, 0x100075003080030c,
  0x1000550030800300, 0x1000750030800300, 0x2000410030800304, 0x1000610030800304,
  0x1000410030700304, 0x1000610030700304, 0x1000c600304, 0x1000e600304, 0x3000470030c,
  0x1000670030c, 0x10004b0030c, 0x10006b0030c, 0x10004f00328, 0x10006f00328, 0x10004f0032800304,
  0x10006f0032800304, 0x1001b70030c, 0x1002920030c, 0x10006a0030c, 0x1000440005a, 0x1000440007a,
  0x1000640007a, 0x10004700301, 0x10006700301, 0x30004e00300, 0x10006e00300, 0x1000410030a00301,
  0x1000610030a00301, 0x1000c600301, 0x1000e600301, 0x1000d800301, 0x1000f800301, 0x1000410030f,
  0x1000610030f, 0x10004100311, 0x10006100311, 0x1000450030f, 0x1000650030f, 0x10004500311,
  0x10006500311, 0x1000490030f, 0x1000690030f, 0x10004900311, 0x10006900311, 0x10004f0030f,
  0x10006f0030f, 0x10004f00311, 0x10006f00311, 0x1000520030f, 0x1000720030f, 0x10005200311,
  0x10007200311, 0x1000550030f, 0x1000750030f, 0x10005500311, 0x10007500311, 0x10005300326,
  0x10007300326, 0x10005400326, 0x10007400326, 0x3000480030c, 0x1000680030c, 0x70004100307,
  0x10006100307, 0x10004500327, 0x10006500327, 0x10004f0030800304, 0x10006f0030800304,
  0x10004f0030300304, 0x10006f0030300304, 0x10004f00307, 0x10006f00307, 0x10004f0030700304,
  0x10006f0030700304, 0x10005900304, 0x10007900304, 0x7d00068, 0x100266, 0x10006a, 0x100072,
  0x100279, 0x10027b, 0x100281, 0x100077, 0x100079, 0x200002000306, 0x10002000307, 0x1000200030a,
  0x10002000328, 0x10002000303, 0x1000200030b, 0x300263, 0x10006c, 0x100073, 0x100078, 0x100295,
  0x5c00300, 0x100301, 0x200313, 0x10030800301, 0x30002b9, 0x60002000345, 0x40003b, 0x60002000301,
  0x1000200030800301, 0x10039100301, 0x1000b7, 0x10039500301, 0x10039700301, 0x10039900301,
  0x20039f00301, 0x2003a500301, 0x1003a900301, 0x1003b90030800301, 0x1a0039900308, 0x1003a500308,
  0x1003b100301, 0x1003b500301, 0x1003b700301, 0x1003b900301, 0x1003c50030800301, 0x1a003b900308,
  0x1003c500308, 0x1003bf00301, 0x1003c500301, 0x1003c900301, 0x2003b2, 0x1003b8, 0x1003a5,
  0x1003a500301, 0x1003a500308, 0x1003c6, 0x1003c0, 0x1a003ba, 0x1003c1, 0x1003c2, 0x200398,
  0x1003b5, 0x4003a3, 0x70041500300, 0x10041500308, 0x20041300301, 0x40040600308, 0x50041a00301,
  0x10041800300, 0x10042300306, 0xb0041800306, 0x200043800306, 0x170043500300, 0x10043500308,
  0x20043300301, 0x40045600308, 0x50043a00301, 0x10043800300, 0x10044300306, 0x18004740030f,
  0x1004750030f, 0x4a0041600306, 0x10043600306, 0xe0041000306, 0x10043000306, 0x10041000308,
  0x10043000308, 0x30041500306, 0x10043500306, 0x3004d800308, 0x1004d900308, 0x10041600308,
  0x10043600308, 0x10041700308, 0x10043700308, 0x30041800304, 0x10043800304, 0x10041800308,
  0x10043800308, 0x10041e00308, 0x10043e00308, 0x3004e800308, 0x1004e900308, 0x10042d00308,
  0x10044d00308, 0x10042300304, 0x10044300304, 0x10042300308, 0x10044300308, 0x1004230030b,
  0x1004430030b, 0x10042700308, 0x10044700308, 0x30042b00308, 0x10044b00308, 0x8e0056500582,
  0x9b0062700653, 0x10062700654, 0x10064800654, 0x10062700655, 0x10064a00654, 0x4f0062700674,
  0x10064800674, 0x1006c700674, 0x10064a00674, 0x48006d500654, 0x2006c100654, 0x11006d200654,
  0x256009280093c, 0x8009300093c, 0x3009330093c, 0x24009150093c, 0x1009160093c, 0x1009170093c,
  0x10091c0093c, 0x1009210093c, 0x1009220093c, 0x10092b0093c, 0x10092f0093c, 0x6c009c7009be,
  0x1009c7009d7, 0x10009a1009bc, 0x1009a2009bc, 0x2009af009bc, 0x5400a3200a3c, 0x300a3800a3c,
  0x2300a1600a3c, 0x100a1700a3c, 0x100a1c00a3c, 0x300a2b00a3c, 0xea00b4700b56, 0x300b4700b3e,
  0x100b4700b57, 0x1000b2100b3c, 0x100b2200b3c, 0x3700b9200bd7, 0x3600bc600bbe, 0x100bc700bbe,
  0x100bc600bd7, 0x7c00c4600c56, 0x7800cbf00cd5, 0x700cc600cd5, 0x100cc600cd6, 0x200cc600cc2,
  0x100cc600cc200cd5, 0x7f00d4600d3e, 0x100d4700d3e, 0x100d4600d57, 0x8e00dd900dca, 0x200dd900dcf,
  0x100dd900dcf00dca, 0x100dd900ddf, 0x5500e4d00e32, 0x8000ecd00eb2, 0x2900eab00e99, 0x100eab00ea1,
  0x2f00f0b, 0x3700f4200fb7, 0xa00f4c00fb7, 0x500f5100fb7, 0x500f5600fb7, 0x500f5b00fb7,
  0xd00f4000fb5, 0xa00f7100f72, 0x200f7100f74, 0x100fb200f80, 0x100fb200f7100f80, 0x100fb300f80,
  0x100fb300f7100f80, 0x800f7100f80, 0x1200f9200fb7, 0xa00f9c00fb7, 0x500fa100fb7, 0x500fa600fb7,
  0x500fab00fb7, 0xd00f9000fb5, 0x6d010250102e, 0xd6010dc, 0xa0a01b0501b35, 0x201b0701b35,
  0x201b0901b35, 0x201b0b01b35, 0x201b0d01b35, 0x401b1101b35, 0x2901b3a01b35, 0x201b3c01b35,
  0x301b3e01b35, 0x101b3f01b35, 0x201b4201b35, 0x1e900041, 0x1000c6, 0x100042, 0x200044, 0x100045,
  0x10018e, 0x100047, 0x100048, 0x100049, 0x10004a, 0x10004b, 0x10004c, 0x10004d, 0x10004e,
  0x20004f, 0x100222, 0x100050, 0x100052, 0x100054, 0x100055, 0x100057, 0x100061, 0x100250,
  0x100251, 0x101d02, 0x100062, 0x100064, 0x100065, 0x100259, 0x10025b, 0x10025c, 0x100067,
  0x20006b, 0x10006d, 0x10014b, 0x10006f, 0x100254, 0x101d16, 0x101d17, 0x100070, 0x100074,
  0x100075, 0x101d1d, 0x10026f, 0x100076, 0x101d25, 0x1003b2, 0x1003b3, 0x1003b4, 0x1003c6,
  0x1003c7, 0x100069, 0x100072, 0x100075, 0x100076, 0x1003b2, 0x1003b3, 0x1003c1, 0x1003c6,
  0x1003c7, 0xe0043d, 0x2300252, 0x100063, 0x100255, 0x1000f0, 0x10025c, 0x100066, 0x10025f,
  0x100261, 0x100265, 0x100268, 0x100269, 0x10026a, 0x101d7b, 0x10029d, 0x10026d, 0x101d85,
  0x10029f, 0x100271, 0x100270, 0x100272, 0x100273, 0x100274, 0x100275, 0x100278, 0x100282,
  0x100283, 0x1001ab, 0x100289, 0x10028a, 0x101d1c, 0x10028b, 0x10028c, 0x10007a, 0x100290,
  0x100291, 0x100292, 0x1003b8, 0x410004100325, 0x10006100325, 0x10004200307, 0x10006200307,
  0x10004200323, 0x10006200323, 0x10004200331, 0x10006200331, 0x1000430032700301,
  0x1000630032700301, 0x10004400307, 0x10006400307, 0x10004400323, 0x10006400323, 0x10004400331,
  0x10006400331, 0x10004400327, 0x10006400327, 0x1000440032d, 0x1000640032d, 0x1000450030400300,
  0x1000650030400300, 0x1000450030400301, 0x1000650030400301, 0x1000450032d, 0x1000650032d,
  0x10004500330, 0x10006500330, 0x1000450032700306, 0x1000650032700306, 0x10004600307,
  0x10006600307, 0x10004700304, 0x10006700304, 0x10004800307, 0x10006800307, 0x10004800323,
  0x10006800323, 0x10004800308, 0x10006800308, 0x10004800327, 0x10006800327, 0x1000480032e,
  0x1000680032e, 0x10004900330, 0x10006900330, 0x1000490030800301, 0x1000690030800301,
  0x10004b00301, 0x10006b00301, 0x10004b00323, 0x10006b00323, 0x10004b00331, 0x10006b00331,
  0x10004c00323, 0x10006c00323, 0x10004c0032300304, 0x10006c0032300304, 0x10004c00331,
  0x10006c00331, 0x10004c0032d, 0x10006c0032d, 0x10004d00301, 0x10006d00301, 0x10004d00307,
  0x10006d00307, 0x10004d00323, 0x10006d00323, 0x10004e00307, 0x10006e00307, 0x10004e00323,
  0x10006e00323, 0x10004e00331, 0x10006e00331, 0x10004e0032d, 0x10006e0032d, 0x10004f0030300301,
  0x10006f0030300301, 0x10004f0030300308, 0x10006f0030300308, 0x10004f0030400300,
  0x10006f0030400300, 0x10004f0030400301, 0x10006f0030400301, 0x10005000301, 0x10007000301,
  0x10005000307, 0x10007000307, 0x10005200307, 0x10007200307, 0x10005200323, 0x10007200323,
  0x1000520032300304, 0x1000720032300304, 0x10005200331, 0x10007200331, 0x10005300307,
  0x10007300307, 0x10005300323, 0x10007300323, 0x1000530030100307, 0x1000730030100307,
  0x1000530030c00307, 0x1000730030c00307, 0x1000530032300307, 0x1000730032300307, 0x10005400307,
  0x10007400307, 0x10005400323, 0x10007400323, 0x10005400331, 0x10007400331, 0x1000540032d,
  0x1000740032d, 0x10005500324, 0x10007500324, 0x10005500330, 0x10007500330, 0x1000550032d,
  0x1000750032d, 0x1000550030300301, 0x1000750030300301, 0x1000550030400308, 0x1000750030400308,
  0x10005600303, 0x10007600303, 0x10005600323, 0x10007600323, 0x10005700300, 0x10007700300,
  0x10005700301, 0x10007700301, 0x10005700308, 0x10007700308, 0x10005700307, 0x10007700307,
  0x10005700323, 0x10007700323, 0x10005800307, 0x10007800307, 0x10005800308, 0x10007800308,
  0x10005900307, 0x10007900307, 0x10005a00302, 0x10007a00302, 0x10005a00323, 0x10007a00323,
  0x10005a00331, 0x10007a00331, 0x10006800331, 0x10007400308, 0x1000770030a, 0x1000790030a,
  0x100061002be, 0x10007300307, 0x50004100323, 0x10006100323, 0x10004100309, 0x10006100309,
  0x1000410030200301, 0x1000610030200301, 0x1000410030200300, 0x1000610030200300,
  0x1000410030200309, 0x1000610030200309, 0x1000410030200303, 0x1000610030200303,
  0x1000410032300302, 0x1000610032300302, 0x1000410030600301, 0x1000610030600301,
  0x1000410030600300, 0x1000610030600300, 0x1000410030600309, 0x1000610030600309,
  0x1000410030600303, 0x1000610030600303, 0x1000410032300306, 0x1000610032300306, 0x10004500323,
  0x10006500323, 0x10004500309, 0x10006500309, 0x10004500303, 0x10006500303, 0x1000450030200301,
  0x1000650030200301, 0x1000450030200300, 0x1000650030200300, 0x1000450030200309,
  0x1000650030200309, 0x1000450030200303, 0x1000650030200303, 0x1000450032300302,
  0x1000650032300302, 0x10004900309, 0x10006900309, 0x10004900323, 0x10006900323, 0x10004f00323,
  0x10006f00323, 0x10004f00309, 0x10006f00309, 0x10004f0030200301, 0x10006f0030200301,
  0x10004f0030200300, 0x10006f0030200300, 0x10004f0030200309, 0x10006f0030200309,
  0x10004f0030200303, 0x10006f0030200303, 0x10004f0032300302, 0x10006f0032300302,
  0x10004f0031b00301, 0x10006f0031b00301, 0x10004f0031b00300, 0x10006f0031b00300,
  0x10004f0031b00309, 0x10006f0031b00309, 0x10004f0031b00303, 0x10006f0031b00303,
  0x10004f0031b00323, 0x10006f0031b00323, 0x10005500323, 0x10007500323, 0x10005500309,
  0x10007500309, 0x1000550031b00301, 0x1000750031b00301, 0x1000550031b00300, 0x1000750031b00300,
  0x1000550031b00309, 0x1000750031b00309, 0x1000550031b00303, 0x1000750031b00303,
  0x1000550031b00323, 0x1000750031b00323, 0x10005900300, 0x10007900300, 0x10005900323,
  0x10007900323, 0x10005900309, 0x10007900309, 0x10005900303, 0x10007900303, 0x7003b100313,
  0x1003b100314, 0x1003b10031300300, 0x1003b10031400300, 0x1003b10031300301, 0x1003b10031400301,
  0x1003b10031300342, 0x1003b10031400342, 0x10039100313, 0x10039100314, 0x1003910031300300,
  0x1003910031400300, 0x1003910031300301, 0x1003910031400301, 0x1003910031300342,
  0x1003910031400342, 0x1003b500313, 0x1003b500314, 0x1003b50031300300, 0x1003b50031400300,
  0x1003b50031300301, 0x1003b50031400301, 0x30039500313, 0x10039500314, 0x1003950031300300,
  0x1003950031400300, 0x1003950031300301, 0x1003950031400301, 0x3003b700313, 0x1003b700314,
  0x1003b70031300300, 0x1003b70031400300, 0x1003b70031300301, 0x1003b70031400301,
  0x1003b70031300342, 0x1003b70031400342, 0x10039700313, 0x10039700314, 0x1003970031300300,
  0x1003970031400300, 0x1003970031300301, 0x1003970031400301, 0x1003970031300342,
  0x1003970031400342, 0x1003b900313, 0x1003b900314, 0x1003b90031300300, 0x1003b90031400300,
  0x1003b90031300301, 0x1003b90031400301, 0x1003b90031300342, 0x1003b90031400342, 0x10039900313,
  0x10039900314, 0x1003990031300300, 0x1003990031400300, 0x1003990031300301, 0x1003990031400301,
  0x1003990031300342, 0x1003990031400342, 0x1003bf00313, 0x1003bf00314, 0x1003bf0031300300,
  0x1003bf0031400300, 0x1003bf0031300301, 0x1003bf0031400301, 0x30039f00313, 0x10039f00314,
  0x10039f0031300300, 0x10039f0031400300, 0x10039f0031300301, 0x10039f0031400301, 0x3003c500313,
  0x1003c500314, 0x1003c50031300300, 0x1003c50031400300, 0x1003c50031300301, 0x1003c50031400301,
  0x1003c50031300342, 0x1003c50031400342, 0x2003a500314, 0x2003a50031400300, 0x2003a50031400301,
  0x2003a50031400342, 0x1003c900313, 0x1003c900314, 0x1003c90031300300, 0x1003c90031400300,
  0x1003c90031300301, 0x1003c90031400301, 0x1003c90031300342, 0x1003c90031400342, 0x1003a900313,
  0x1003a900314, 0x1003a90031300300, 0x1003a90031400300, 0x1003a90031300301, 0x1003a90031400301,
  0x1003a90031300342, 0x1003a90031400342, 0x1003b100300, 0x1003b100301, 0x1003b500300,
  0x1003b500301, 0x1003b700300, 0x1003b700301, 0x1003b900300, 0x1003b900301, 0x1003bf00300,
  0x1003bf00301, 0x1003c500300, 0x1003c500301, 0x1003c900300, 0x1003c900301, 0x3003b10031300345,
  0x1003b10031400345, 0x1003b1003130030000345, 0x1003b1003140030000345, 0x1003b1003130030100345,
  0x1003b1003140030100345, 0x1003b1003130034200345, 0x1003b1003140034200345, 0x1003910031300345,
  0x1003910031400345, 0x100391003130030000345, 0x100391003140030000345, 0x100391003130030100345,
  0x100391003140030100345, 0x100391003130034200345, 0x100391003140034200345, 0x1003b70031300345,
  0x1003b70031400345, 0x1003b7003130030000345, 0x1003b7003140030000345, 0x1003b7003130030100345,
  0x1003b7003140030100345, 0x1003b7003130034200345, 0x1003b7003140034200345, 0x1003970031300345,
  0x1003970031400345, 0x100397003130030000345, 0x100397003140030000345, 0x100397003130030100345,
  0x100397003140030100345, 0x100397003130034200345, 0x100397003140034200345, 0x1003c90031300345,
  0x1003c90031400345, 0x1003c9003130030000345, 0x1003c9003140030000345, 0x1003c9003130030100345,
  0x1003c9003140030100345, 0x1003c9003130034200345, 0x1003c9003140034200345, 0x1003a90031300345,
  0x1003a90031400345, 0x1003a9003130030000345, 0x1003a9003140030000345, 0x1003a9003130030100345,
  0x1003a9003140030100345, 0x1003a9003130034200345, 0x1003a9003140034200345, 0x1003b100306,
  0x1003b100304, 0x1003b10030000345, 0x1003b100345, 0x1003b10030100345, 0x2003b100342,
  0x1003b10034200345, 0x10039100306, 0x10039100304, 0x10039100300, 0x10039100301, 0x10039100345,
  0x10002000313, 0x1003b9, 0x10002000313, 0x10002000342, 0x1000200030800342, 0x1003b70030000345,
  0x1003b700345, 0x1003b70030100345, 0x2003b700342, 0x1003b70034200345, 0x10039500300,
  0x10039500301, 0x10039700300, 0x10039700301, 0x10039700345, 0x1000200031300300,
  0x1000200031300301, 0x1000200031300342, 0x1003b900306, 0x1003b900304, 0x1003b90030800300,
  0x1003b90030800301, 0x3003b900342, 0x1003b90030800342, 0x10039900306, 0x10039900304,
  0x10039900300, 0x10039900301, 0x2000200031400300, 0x1000200031400301, 0x1000200031400342,
  0x1003c500306, 0x1003c500304, 0x1003c50030800300, 0x1003c50030800301, 0x1003c100313,
  0x1003c100314, 0x1003c500342, 0x1003c50030800342, 0x1003a500306, 0x1003a500304, 0x1003a500300,
  0x1003a500301, 0x1003a100314, 0x1000200030800300, 0x1000200030800301, 0x100060,
  0x3003c90030000345, 0x1003c900345, 0x1003c90030100345, 0x2003c900342, 0x1003c90034200345,
  0x10039f00300, 0x10039f00301, 0x1003a900300, 0x1003a900301, 0x1003a900345, 0x10002000301,
  0x10002000314]

/-- The decompositions of symbols and radicals, up to `U+F900`. -/
def symbolRows : List Nat := [
  0x200020, 0x100020, 0x100020, 0x100020, 0x100020, 0x100020, 0x100020, 0x100020, 0x100020,
  0x100020, 0x100020, 0x702010, 0x60002000333, 0xd0002e, 0x10002e0002e, 0x10002e0002e0002e,
  0x900020, 0x40203202032, 0x1020320203202032, 0x20203502035, 0x1020350203502035, 0x50002100021,
  0x20002000305, 0x90003f0003f, 0x10003f00021, 0x1000210003f, 0xe02032020320203202032, 0x800020,
  0x1100030, 0x100069, 0x300034, 0x100035, 0x100036, 0x100037, 0x100038, 0x100039, 0x10002b,
  0x102212, 0x10003d, 0x100028, 0x100029, 0x10006e, 0x100030, 0x100031, 0x100032, 0x100033,
  0x100034, 0x100035, 0x100036, 0x100037, 0x100038, 0x100039, 0x10002b, 0x102212, 0x10003d,
  0x100028, 0x100029, 0x200061, 0x100065, 0x10006f, 0x100078, 0x100259, 0x100068, 0x10006b,
  0x10006c, 0x10006d, 0x10006e, 0x100070, 0x100073, 0x100074, 0xc0005200073, 0x58000610002f00063,
  0x1000610002f00073, 0x100043, 0x1000b000043, 0x2000630002f0006f, 0x1000630002f00075, 0x100190,
  0x2000b000046, 0x100067, 0x100048, 0x100048, 0x100048, 0x100068, 0x100127, 0x100049, 0x100049,
  0x10004c, 0x10006c, 0x20004e, 0x10004e0006f, 0x300050, 0x100051, 0x100052, 0x100052, 0x100052,
  0x3000530004d, 0x100054000450004c, 0x1000540004d, 0x20005a, 0x2003a9, 0x20005a, 0x20004b,
  0x1000410030a, 0x100042, 0x100043, 0x200065, 0x100045, 0x100046, 0x20004d, 0x10006f, 0x1005d0,
  0x1005d1, 0x1005d2, 0x1005d3, 0x100069, 0x2000460004100058, 0x1003c0, 0x1003b3, 0x100393,
  0x1003a0, 0x102211, 0x500044, 0x100064, 0x100065, 0x100069, 0x10006a, 0x7000310204400037,
  0x1000310204400039, 0x100031020440003100030, 0x1000310204400033, 0x1000320204400033,
  0x1000310204400035, 0x1000320204400035, 0x1000330204400035, 0x1000340204400035,
  0x1000310204400036, 0x1000350204400036, 0x1000310204400038, 0x1000330204400038,
  0x1000350204400038, 0x1000370204400038, 0x10003102044, 0x100049, 0x10004900049,
  0x1000490004900049, 0x10004900056, 0x100056, 0x10005600049, 0x1000560004900049,
  0x100056000490004900049, 0x10004900058, 0x100058, 0x10005800049, 0x1000580004900049, 0x10004c,
  0x100043, 0x100044, 0x10004d, 0x100069, 0x10006900069, 0x1000690006900069, 0x10006900076,
  0x100076, 0x10007600069, 0x1000760006900069, 0x100076000690006900069, 0x10006900078, 0x100078,
  0x10007800069, 0x1000780006900069, 0x10006c, 0x100063, 0x100064, 0x10006d, 0xa000300204400033,
  0x110219000338, 0x10219200338, 0x130219400338, 0x1f021d000338, 0x1021d400338, 0x1021d200338,
  0x350220300338, 0x50220800338, 0x30220b00338, 0x180222300338, 0x20222500338, 0x60222b0222b,
  0x10222b0222b0222b, 0x20222e0222e, 0x10222e0222e0222e, 0x110223c00338, 0x30224300338,
  0x30224500338, 0x20224800338, 0x170003d00338, 0x20226100338, 0xb0224d00338, 0x10003c00338,
  0x10003e00338, 0x10226400338, 0x10226500338, 0x30227200338, 0x10227300338, 0x30227600338,
  0x10227700338, 0x70227a00338, 0x10227b00338, 0x30228200338, 0x10228300338, 0x30228600338,
  0x10228700338, 0x23022a200338, 0x1022a800338, 0x1022a900338, 0x1022ab00338, 0x310227c00338,
  0x10227d00338, 0x10229100338, 0x10229200338, 0x7022b200338, 0x1022b300338, 0x1022b400338,
  0x1022b500338, 0x3c03008, 0x103009, 0x13600031, 0x100032, 0x100033, 0x100034, 0x100035, 0x100036,
  0x100037, 0x100038, 0x100039, 0x10003100030, 0x10003100031, 0x10003100032, 0x10003100033,
  0x10003100034, 0x10003100035, 0x10003100036, 0x10003100037, 0x10003100038, 0x10003100039,
  0x10003200030, 0x1000280003100029, 0x1000280003200029, 0x1000280003300029, 0x1000280003400029,
  0x1000280003500029, 0x1000280003600029, 0x1000280003700029, 0x1000280003800029,
  0x1000280003900029, 0x100028000310003000029, 0x100028000310003100029, 0x100028000310003200029,
  0x100028000310003300029, 0x100028000310003400029, 0x100028000310003500029,
  0x100028000310003600029, 0x100028000310003700029, 0x100028000310003800029,
  0x100028000310003900029, 0x100028000320003000029, 0x1000310002e, 0x1000320002e, 0x1000330002e,
  0x1000340002e, 0x1000350002e, 0x1000360002e, 0x1000370002e, 0x1000380002e, 0x1000390002e,
  0x100031000300002e, 0x100031000310002e, 0x100031000320002e, 0x100031000330002e,
  0x100031000340002e, 0x100031000350002e, 0x100031000360002e, 0x100031000370002e,
  0x100031000380002e, 0x100031000390002e, 0x100032000300002e, 0x1000280006100029,
  0x1000280006200029, 0x1000280006300029, 0x1000280006400029, 0x1000280006500029,
  0x1000280006600029, 0x1000280006700029, 0x1000280006800029, 0x1000280006900029,
  0x1000280006a00029, 0x1000280006b00029, 0x1000280006c00029, 0x1000280006d00029,
  0x1000280006e00029, 0x1000280006f00029, 0x1000280007000029, 0x1000280007100029,
  0x1000280007200029, 0x1000280007300029, 0x1000280007400029, 0x1000280007500029,
  0x1000280007600029, 0x1000280007700029, 0x1000280007800029, 0x1000280007900029,
  0x1000280007a00029, 0x100041, 0x100042, 0x100043, 0x100044, 0x100045, 0x100046, 0x100047,
  0x100048, 0x100049, 0x10004a, 0x10004b, 0x10004c, 0x10004d, 0x10004e, 0x10004f, 0x100050,
  0x100051, 0x100052, 0x100053, 0x100054, 0x100055, 0x100056, 0x100057, 0x100058, 0x100059,
  0x10005a, 0x100061, 0x100062, 0x100063, 0x100064, 0x100065, 0x100066, 0x100067, 0x100068,
  0x100069, 0x10006a, 0x10006b, 0x10006c, 0x10006d, 0x10006e, 0x10006f, 0x100070, 0x100071,
  0x100072, 0x100073, 0x100074, 0x100075, 0x100076, 0x100077, 0x100078, 0x100079, 0x10007a,
  0x100030, 0x5220222b0222b0222b0222b, 0x680003a0003a0003d, 0x10003d0003d, 0x10003d0003d0003d,
  0x6602add00338, 0x1a00006a, 0x100056, 0xf202d61, 0x13006bcd, 0x5409f9f, 0xd04e00, 0x104e28,
  0x104e36, 0x104e3f, 0x104e59, 0x104e85, 0x104e8c, 0x104ea0, 0x104eba, 0x10513f, 0x105165,
  0x10516b, 0x105182, 0x105196, 0x1051ab, 0x1051e0, 0x1051f5, 0x105200, 0x10529b, 0x1052f9,
  0x105315, 0x10531a, 0x105338, 0x105341, 0x10535c, 0x105369, 0x105382, 0x1053b6, 0x1053c8,
  0x1053e3, 0x1056d7, 0x10571f, 0x1058eb, 0x105902, 0x10590a, 0x105915, 0x105927, 0x105973,
  0x105b50, 0x105b80, 0x105bf8, 0x105c0f, 0x105c22, 0x105c38, 0x105c6e, 0x105c71, 0x105ddb,
  0x105de5, 0x105df1, 0x105dfe, 0x105e72, 0x105e7a, 0x105e7f, 0x105ef4, 0x105efe, 0x105f0b,
  0x105f13, 0x105f50, 0x105f61, 0x105f73, 0x105fc3, 0x106208, 0x106236, 0x10624b, 0x10652f,
  0x106534, 0x106587, 0x106597, 0x1065a4, 0x1065b9, 0x1065e0, 0x1065e5, 0x1066f0, 0x106708,
  0x106728, 0x106b20, 0x106b62, 0x106b79, 0x106bb3, 0x106bcb, 0x106bd4, 0x106bdb, 0x106c0f,
  0x106c14, 0x106c34, 0x10706b, 0x10722a, 0x107236, 0x10723b, 0x10723f, 0x107247, 0x107259,
  0x10725b, 0x1072ac, 0x107384, 0x107389, 0x1074dc, 0x1074e6, 0x107518, 0x10751f, 0x107528,
  0x107530, 0x10758b, 0x107592, 0x107676, 0x10767d, 0x1076ae, 0x1076bf, 0x1076ee, 0x1077db,
  0x1077e2, 0x1077f3, 0x10793a, 0x1079b8, 0x1079be, 0x107a74, 0x107acb, 0x107af9, 0x107c73,
  0x107cf8, 0x107f36, 0x107f51, 0x107f8a, 0x107fbd, 0x108001, 0x10800c, 0x108012, 0x108033,
  0x10807f, 0x108089, 0x1081e3, 0x1081ea, 0x1081f3, 0x1081fc, 0x10820c, 0x10821b, 0x10821f,
  0x10826e, 0x108272, 0x108278, 0x10864d, 0x10866b, 0x108840, 0x10884c, 0x108863, 0x10897e,
  0x10898b, 0x1089d2, 0x108a00, 0x108c37, 0x108c46, 0x108c55, 0x108c78, 0x108c9d, 0x108d64,
  0x108d70, 0x108db3, 0x108eab, 0x108eca, 0x108f9b, 0x108fb0, 0x108fb5, 0x109091, 0x109149,
  0x1091c6, 0x1091cc, 0x1091d1, 0x109577, 0x109580, 0x10961c, 0x1096b6, 0x1096b9, 0x1096e8,
  0x109751, 0x10975e, 0x109762, 0x109769, 0x1097cb, 0x1097ed, 0x1097f3, 0x109801, 0x1098a8,
  0x1098db, 0x1098df, 0x109996, 0x109999, 0x1099ac, 0x109aa8, 0x109ad8, 0x109adf, 0x109b25,
  0x109b2f, 0x109b32, 0x109b3c, 0x109b5a, 0x109ce5, 0x109e75, 0x109e7f, 0x109ea5, 0x109ebb,
  0x109ec3, 0x109ecd, 0x109ed1, 0x109ef9, 0x109efd, 0x109f0e, 0x109f13, 0x109f20, 0x109f3b,
  0x109f4a, 0x109f52, 0x109f8d, 0x109f9c, 0x109fa0, 0x2b00020, 0x3603012, 0x205341, 0x105344,
  0x105345, 0x120304b03099, 0x20304d03099, 0x20304f03099, 0x20305103099, 0x20305303099,
  0x20305503099, 0x20305703099, 0x20305903099, 0x20305b03099, 0x20305d03099, 0x20305f03099,
  0x20306103099, 0x30306403099, 0x20306603099, 0x20306803099, 0x70306f03099, 0x10306f0309a,
  0x20307203099, 0x1030720309a, 0x20307503099, 0x1030750309a, 0x20307803099, 0x1030780309a,
  0x20307b03099, 0x10307b0309a, 0x170304603099, 0x70002003099, 0x1000200309a, 0x20309d03099,
  0x1030880308a, 0xd030ab03099, 0x2030ad03099, 0x2030af03099, 0x2030b103099, 0x2030b303099,
  0x2030b503099, 0x2030b703099, 0x2030b903099, 0x2030bb03099, 0x2030bd03099, 0x2030bf03099,
  0x2030c103099, 0x3030c403099, 0x2030c603099, 0x2030c803099, 0x7030cf03099, 0x1030cf0309a,
  0x2030d203099, 0x1030d20309a, 0x2030d503099, 0x1030d50309a, 0x2030d803099, 0x1030d80309a,
  0x2030db03099, 0x1030db0309a, 0x17030a603099, 0x3030ef03099, 0x1030f003099, 0x1030f103099,
  0x1030f203099, 0x4030fd03099, 0x1030b3030c8, 0x3201100, 0x101101, 0x1011aa, 0x101102, 0x1011ac,
  0x1011ad, 0x101103, 0x101104, 0x101105, 0x1011b0, 0x1011b1, 0x1011b2, 0x1011b3, 0x1011b4,
  0x1011b5, 0x10111a, 0x101106, 0x101107, 0x101108, 0x101121, 0x101109, 0x10110a, 0x10110b,
  0x10110c, 0x10110d, 0x10110e, 0x10110f, 0x101110, 0x101111, 0x101112, 0x101161, 0x101162,
  0x101163, 0x101164, 0x101165, 0x101166, 0x101167, 0x101168, 0x101169, 0x10116a, 0x10116b,
  0x10116c, 0x10116d, 0x10116e, 0x10116f, 0x101170, 0x101171, 0x101172, 0x101173, 0x101174,
  0x101175, 0x101160, 0x101114, 0x101115, 0x1011c7, 0x1011c8, 0x1011cc, 0x1011ce, 0x1011d3,
  0x1011d7, 0x1011d9, 0x10111c, 0x1011dd, 0x1011df, 0x10111d, 0x10111e, 0x101120, 0x101122,
  0x101123, 0x101127, 0x101129, 0x10112b, 0x10112c, 0x10112d, 0x10112e, 0x10112f, 0x101132,
  0x101136, 0x101140, 0x101147, 0x10114c, 0x1011f1, 0x1011f2, 0x101157, 0x101158, 0x101159,
  0x101184, 0x101185, 0x101188, 0x101191, 0x101192, 0x101194, 0x10119e, 0x1011a1, 0x404e00,
  0x104e8c, 0x104e09, 0x1056db, 0x104e0a, 0x104e2d, 0x104e0b, 0x107532, 0x104e59, 0x104e19,
  0x104e01, 0x105929, 0x105730, 0x104eba, 0x61000280110000029, 0x1000280110200029,
  0x1000280110300029, 0x1000280110500029, 0x1000280110600029, 0x1000280110700029,
  0x1000280110900029, 0x1000280110b00029, 0x1000280110c00029, 0x1000280110e00029,
  0x1000280110f00029, 0x1000280111000029, 0x1000280111100029, 0x1000280111200029,
  0x100028011000116100029, 0x100028011020116100029, 0x100028011030116100029,
  0x100028011050116100029, 0x100028011060116100029, 0x100028011070116100029,
  0x100028011090116100029, 0x1000280110b0116100029, 0x1000280110c0116100029,
  0x1000280110e0116100029, 0x1000280110f0116100029, 0x100028011100116100029,
  0x100028011110116100029, 0x100028011120116100029, 0x1000280110c0116e00029,
  0x1000280110b011690110c01165011ab00029, 0x1000280110b01169011120116e00029, 0x20002804e0000029,
  0x10002804e8c00029, 0x10002804e0900029, 0x100028056db00029, 0x10002804e9400029,
  0x1000280516d00029, 0x10002804e0300029, 0x1000280516b00029, 0x10002804e5d00029,
  0x1000280534100029, 0x1000280670800029, 0x1000280706b00029, 0x10002806c3400029,
  0x1000280672800029, 0x100028091d100029, 0x1000280571f00029, 0x100028065e500029,
  0x1000280682a00029, 0x1000280670900029, 0x1000280793e00029, 0x1000280540d00029,
  0x1000280727900029, 0x10002808ca100029, 0x1000280795d00029, 0x100028052b400029,
  0x10002804ee300029, 0x1000280547c00029, 0x10002805b6600029, 0x100028076e300029,
  0x10002804f0100029, 0x10002808cc700029, 0x1000280535400029, 0x1000280796d00029,
  0x10002804f1100029, 0x100028081ea00029, 0x100028081f300029, 0x10554f, 0x105e7c, 0x106587,
  0x107b8f, 0x9000500005400045, 0x10003200031, 0x10003200032, 0x10003200033, 0x10003200034,
  0x10003200035, 0x10003200036, 0x10003200037, 0x10003200038, 0x10003200039, 0x10003300030,
  0x10003300031, 0x10003300032, 0x10003300033, 0x10003300034, 0x10003300035, 0x101100, 0x101102,
  0x101103, 0x101105, 0x101106, 0x101107, 0x101109, 0x10110b, 0x10110c, 0x10110e, 0x10110f,
  0x101110, 0x101111, 0x101112, 0x10110001161, 0x10110201161, 0x10110301161, 0x10110501161,
  0x10110601161, 0x10110701161, 0x10110901161, 0x10110b01161, 0x10110c01161, 0x10110e01161,
  0x10110f01161, 0x10111001161, 0x10111101161, 0x10111201161, 0x10110e01161011b70110001169,
  0x10110c0116e0110b01174, 0x10110b0116e, 0x204e00, 0x104e8c, 0x104e09, 0x1056db, 0x104e94,
  0x10516d, 0x104e03, 0x10516b, 0x104e5d, 0x105341, 0x106708, 0x10706b, 0x106c34, 0x106728,
  0x1091d1, 0x10571f, 0x1065e5, 0x10682a, 0x106709, 0x10793e, 0x10540d, 0x107279, 0x108ca1,
  0x10795d, 0x1052b4, 0x1079d8, 0x107537, 0x105973, 0x109069, 0x10512a, 0x105370, 0x106ce8,
  0x109805, 0x104f11, 0x105199, 0x106b63, 0x104e0a, 0x104e2d, 0x104e0b, 0x105de6, 0x1053f3,
  0x10533b, 0x105b97, 0x105b66, 0x1076e3, 0x104f01, 0x108cc7, 0x105354, 0x10591c, 0x10003300036,
  0x10003300037, 0x10003300038, 0x10003300039, 0x10003400030, 0x10003400031, 0x10003400032,
  0x10003400033, 0x10003400034, 0x10003400035, 0x10003400036, 0x10003400037, 0x10003400038,
  0x10003400039, 0x10003500030, 0x10003106708, 0x10003206708, 0x10003306708, 0x10003406708,
  0x10003506708, 0x10003606708, 0x10003706708, 0x10003806708, 0x10003906708, 0x1000310003006708,
  0x1000310003106708, 0x1000310003206708, 0x10004800067, 0x1000650007200067, 0x10006500056,
  0x10004c0005400044, 0x1030a2, 0x1030a4, 0x1030a6, 0x1030a8, 0x1030aa, 0x1030ab, 0x1030ad,
  0x1030af, 0x1030b1, 0x1030b3, 0x1030b5, 0x1030b7, 0x1030b9, 0x1030bb, 0x1030bd, 0x1030bf,
  0x1030c1, 0x1030c4, 0x1030c6, 0x1030c8, 0x1030ca, 0x1030cb, 0x1030cc, 0x1030cd, 0x1030ce,
  0x1030cf, 0x1030d2, 0x1030d5, 0x1030d8, 0x1030db, 0x1030de, 0x1030df, 0x1030e0, 0x1030e1,
  0x1030e2, 0x1030e4, 0x1030e6, 0x1030e8, 0x1030e9, 0x1030ea, 0x1030eb, 0x1030ec, 0x1030ed,
  0x1030ef, 0x1030f0, 0x1030f1, 0x1030f2, 0x104ee40548c, 0x1030a2030cf0309a030fc030c8,
  0x1030a2030eb030d5030a1, 0x1030a2030f3030d80309a030a2, 0x1030a2030fc030eb,
  0x1030a4030cb030f3030af03099, 0x1030a4030f3030c1, 0x1030a6030a9030f3,
  0x1030a8030b9030af030fc030c803099, 0x1030a8030fc030ab030fc, 0x1030aa030f3030b9,
  0x1030aa030fc030e0, 0x1030ab030a4030ea, 0x1030ab030e9030c3030c8, 0x1030ab030ed030ea030fc,
  0x1030ab03099030ed030f3, 0x1030ab03099030f3030de, 0x1030ad03099030ab03099,
  0x1030ad03099030cb030fc, 0x1030ad030e5030ea030fc, 0x1030ad03099030eb030bf03099030fc,
  0x1030ad030ed, 0x1030ad030ed030af03099030e9030e0, 0x1030ad030ed030e1030fc030c8030eb,
  0x1030ad030ed030ef030c3030c8, 0x1030af03099030e9030e0, 0x1030af03099030e9030e0030c8030f3,
  0x1030af030eb030bb03099030a4030ed, 0x1030af030ed030fc030cd, 0x1030b1030fc030b9,
  0x1030b3030eb030ca, 0x1030b3030fc030db0309a, 0x1030b5030a4030af030eb,
  0x1030b5030f3030c1030fc030e0, 0x1030b7030ea030f3030af03099, 0x1030bb030f3030c1,
  0x1030bb030f3030c8, 0x1030bf03099030fc030b9, 0x1030c603099030b7, 0x1030c803099030eb,
  0x1030c8030f3, 0x1030ca030ce, 0x1030ce030c3030c8, 0x1030cf030a4030c4,
  0x1030cf0309a030fc030bb030f3030c8, 0x1030cf0309a030fc030c4, 0x1030cf03099030fc030ec030eb,
  0x1030d20309a030a2030b9030c8030eb, 0x1030d20309a030af030eb, 0x1030d20309a030b3,
  0x1030d203099030eb, 0x1030d5030a1030e9030c3030c803099, 0x1030d5030a3030fc030c8,
  0x1030d503099030c3030b7030a7030eb, 0x1030d5030e9030f3, 0x1030d8030af030bf030fc030eb,
  0x1030d80309a030bd, 0x1030d80309a030cb030d2, 0x1030d8030eb030c4, 0x1030d80309a030f3030b9,
  0x1030d80309a030fc030b703099, 0x1030d803099030fc030bf, 0x1030db0309a030a4030f3030c8,
  0x1030db03099030eb030c8, 0x1030db030f3, 0x1030db0309a030f3030c803099, 0x1030db030fc030eb,
  0x1030db030fc030f3, 0x1030de030a4030af030ed, 0x1030de030a4030eb, 0x1030de030c3030cf,
  0x1030de030eb030af, 0x1030de030f3030b7030e7030f3, 0x1030df030af030ed030f3, 0x1030df030ea,
  0x1030df030ea030cf03099030fc030eb, 0x1030e1030ab03099, 0x1030e1030ab03099030c8030f3,
  0x1030e1030fc030c8030eb, 0x1030e4030fc030c803099, 0x1030e4030fc030eb, 0x1030e6030a2030f3,
  0x1030ea030c3030c8030eb, 0x1030ea030e9, 0x1030eb030d20309a030fc, 0x1030eb030fc030d503099030eb,
  0x1030ec030e0, 0x1030ec030f3030c8030b103099030f3, 0x1030ef030c3030c8, 0x100030070b9,
  0x100031070b9, 0x100032070b9, 0x100033070b9, 0x100034070b9, 0x100035070b9, 0x100036070b9,
  0x100037070b9, 0x100038070b9, 0x100039070b9, 0x10003100030070b9, 0x10003100031070b9,
  0x10003100032070b9, 0x10003100033070b9, 0x10003100034070b9, 0x10003100035070b9,
  0x10003100036070b9, 0x10003100037070b9, 0x10003100038070b9, 0x10003100039070b9,
  0x10003200030070b9, 0x10003200031070b9, 0x10003200032070b9, 0x10003200033070b9,
  0x10003200034070b9, 0x1000680005000061, 0x10006400061, 0x10004100055, 0x1000620006100072,
  0x10006f00056, 0x10007000063, 0x1000640006d, 0x1000640006d00032, 0x1000640006d00033,
  0x10004900055, 0x105e7306210, 0x10662d0548c, 0x10592706b63, 0x10660e06cbb,
  0x10682a05f0f04f1a0793e, 0x10007000041, 0x10006e00041, 0x1003bc00041, 0x10006d00041,
  0x10006b00041, 0x10004b00042, 0x10004d00042, 0x10004700042, 0x100063000610006c,
  0x10006b00063000610006c, 0x10007000046, 0x10006e00046, 0x1003bc00046, 0x1003bc00067,
  0x10006d00067, 0x10006b00067, 0x1000480007a, 0x10006b000480007a, 0x10004d000480007a,
  0x100047000480007a, 0x100054000480007a, 0x1003bc0006c, 0x10006d0006c, 0x1000640006c,
  0x10006b0006c, 0x1000660006d, 0x10006e0006d, 0x1003bc0006d, 0x10006d0006d, 0x1000630006d,
  0x10006b0006d, 0x10006d0006d00032, 0x1000630006d00032, 0x10006d00032, 0x10006b0006d00032,
  0x10006d0006d00033, 0x1000630006d00033, 0x10006d00033, 0x10006b0006d00033, 0x10006d0221500073,
  0x10006d022150007300032, 0x10005000061, 0x10006b0005000061, 0x10004d0005000061,
  0x1000470005000061, 0x1000720006100064, 0x10007200061000640221500073,
  0x1000720006100064022150007300032, 0x10007000073, 0x10006e00073, 0x1003bc00073, 0x10006d00073,
  0x10007000056, 0x10006e00056, 0x1003bc00056, 0x10006d00056, 0x10006b00056, 0x10004d00056,
  0x10007000057, 0x10006e00057, 0x1003bc00057, 0x10006d00057, 0x10006b00057, 0x10004d00057,
  0x10006b003a9, 0x10004d003a9, 0x1000610002e0006d0002e, 0x10004200071, 0x10006300063,
  0x10006300064, 0x100043022150006b00067, 0x1000430006f0002e, 0x10006400042, 0x10004700079,
  0x10006800061, 0x10004800050, 0x1000690006e, 0x10004b0004b, 0x10004b0004d, 0x10006b00074,
  0x10006c0006d, 0x10006c0006e, 0x10006c0006f00067, 0x10006c00078, 0x10006d00062,
  0x10006d000690006c, 0x10006d0006f0006c, 0x10005000048, 0x1000700002e0006d0002e,
  0x100050000500004d, 0x10005000052, 0x10007300072, 0x10005300076, 0x10005700062,
  0x100056022150006d, 0x100041022150006d, 0x100031065e5, 0x100032065e5, 0x100033065e5,
  0x100034065e5, 0x100035065e5, 0x100036065e5, 0x100037065e5, 0x100038065e5, 0x100039065e5,
  0x10003100030065e5, 0x10003100031065e5, 0x10003100032065e5, 0x10003100033065e5,
  0x10003100034065e5, 0x10003100035065e5, 0x10003100036065e5, 0x10003100037065e5,
  0x10003100038065e5, 0x10003100039065e5, 0x10003200030065e5, 0x10003200031065e5,
  0x10003200032065e5, 0x10003200033065e5, 0x10003200034065e5, 0x10003200035065e5,
  0x10003200036065e5, 0x10003200037065e5, 0x10003200038065e5, 0x10003200039065e5,
  0x10003300030065e5, 0x10003300031065e5, 0x100067000610006c, 0x729d0044a, 0x10044c, 0xd30a76f,
  0x8200043, 0x100046, 0x100051, 0x400126, 0x100153, 0x3630a727, 0x10ab37, 0x10026b, 0x10ab52,
  0xa0028d]

/-- The decompositions of compatibility ideographs and presentation forms. -/
def formRows : List Nat := [
  0x4d9708c48, 0x1066f4, 0x108eca, 0x108cc8, 0x106ed1, 0x104e32, 0x1053e5, 0x109f9c, 0x109f9c,
  0x105951, 0x1091d1, 0x105587, 0x105948, 0x1061f6, 0x107669, 0x107f85, 0x10863f, 0x1087ba,
  0x1088f8, 0x10908f, 0x106a02, 0x106d1b, 0x1070d9, 0x1073de, 0x10843d, 0x10916a, 0x1099f1,
  0x104e82, 0x105375, 0x106b04, 0x10721b, 0x10862d, 0x109e1e, 0x105d50, 0x106feb, 0x1085cd,
  0x108964, 0x1062c9, 0x1081d8, 0x10881f, 0x105eca, 0x106717, 0x106d6a, 0x1072fc, 0x1090ce,
  0x104f86, 0x1051b7, 0x1052de, 0x1064c4, 0x106ad3, 0x107210, 0x1076e7, 0x108001, 0x108606,
  0x10865c, 0x108def, 0x109732, 0x109b6f, 0x109dfa, 0x10788c, 0x10797f, 0x107da0, 0x1083c9,
  0x109304, 0x109e7f, 0x108ad6, 0x1058df, 0x105f04, 0x107c60, 0x10807e, 0x107262, 0x1078ca,
  0x108cc2, 0x1096f7, 0x1058d8, 0x105c62, 0x106a13, 0x106dda, 0x106f0f, 0x107d2f, 0x107e37,
  0x10964b, 0x1052d2, 0x10808b, 0x1051dc, 0x1051cc, 0x107a1c, 0x107dbe, 0x1083f1, 0x109675,
  0x108b80, 0x1062cf, 0x106a02, 0x108afe, 0x104e39, 0x105be7, 0x106012, 0x107387, 0x107570,
  0x105317, 0x1078fb, 0x104fbf, 0x105fa9, 0x104e0d, 0x106ccc, 0x106578, 0x107d22, 0x1053c3,
  0x10585e, 0x107701, 0x108449, 0x108aaa, 0x106bba, 0x108fb0, 0x106c88, 0x1062fe, 0x1082e5,
  0x1063a0, 0x107565, 0x104eae, 0x105169, 0x1051c9, 0x106881, 0x107ce7, 0x10826f, 0x108ad2,
  0x1091cf, 0x1052f5, 0x105442, 0x105973, 0x105eec, 0x1065c5, 0x106ffe, 0x10792a, 0x1095ad,
  0x109a6a, 0x109e97, 0x109ece, 0x10529b, 0x1066c6, 0x106b77, 0x108f62, 0x105e74, 0x106190,
  0x106200, 0x10649a, 0x106f23, 0x107149, 0x107489, 0x1079ca, 0x107df4, 0x10806f, 0x108f26,
  0x1084ee, 0x109023, 0x10934a, 0x105217, 0x1052a3, 0x1054bd, 0x1070c8, 0x1088c2, 0x108aaa,
  0x105ec9, 0x105ff5, 0x10637b, 0x106bae, 0x107c3e, 0x107375, 0x104ee4, 0x1056f9, 0x105be7,
  0x105dba, 0x10601c, 0x1073b2, 0x107469, 0x107f9a, 0x108046, 0x109234, 0x1096f6, 0x109748,
  0x109818, 0x104f8b, 0x1079ae, 0x1091b4, 0x1096b8, 0x1060e1, 0x104e86, 0x1050da, 0x105bee,
  0x105c3f, 0x106599, 0x106a02, 0x1071ce, 0x107642, 0x1084fc, 0x10907c, 0x109f8d, 0x106688,
  0x10962e, 0x105289, 0x10677b, 0x1067f3, 0x106d41, 0x106e9c, 0x107409, 0x107559, 0x10786b,
  0x107d10, 0x10985e, 0x10516d, 0x10622e, 0x109678, 0x10502b, 0x105d19, 0x106dea, 0x108f2a,
  0x105f8b, 0x106144, 0x106817, 0x107387, 0x109686, 0x105229, 0x10540f, 0x105c65, 0x106613,
  0x10674e, 0x1068a8, 0x106ce5, 0x107406, 0x1075e2, 0x107f79, 0x1088cf, 0x1088e1, 0x1091cc,
  0x1096e2, 0x10533f, 0x106eba, 0x10541d, 0x1071d0, 0x107498, 0x1085fa, 0x1096a3, 0x109c57,
  0x109e9f, 0x106797, 0x106dcb, 0x1081e8, 0x107acb, 0x107b20, 0x107c92, 0x1072c0, 0x107099,
  0x108b58, 0x104ec0, 0x108336, 0x10523a, 0x105207, 0x105ea6, 0x1062d3, 0x107cd6, 0x105b85,
  0x106d1e, 0x1066b4, 0x108f3b, 0x10884c, 0x10964d, 0x10898b, 0x105ed3, 0x105140, 0x1055c0,
  0x30585a, 0x206674, 0x3051de, 0x10732a, 0x1076ca, 0x10793c, 0x10795e, 0x107965, 0x10798f,
  0x109756, 0x107cbe, 0x107fbd, 0x208612, 0x208af8, 0x309038, 0x1090fd, 0x4098ef, 0x1098fc,
  0x109928, 0x109db4, 0x1090de, 0x1096b7, 0x104fae, 0x1050e7, 0x10514d, 0x1052c9, 0x1052e4,
  0x105351, 0x10559d, 0x105606, 0x105668, 0x105840, 0x1058a8, 0x105c64, 0x105c6e, 0x106094,
  0x106168, 0x10618e, 0x1061f2, 0x10654f, 0x1065e2, 0x106691, 0x106885, 0x106d77, 0x106e1a,
  0x106f22, 0x10716e, 0x10722b, 0x107422, 0x107891, 0x10793e, 0x107949, 0x107948, 0x107950,
  0x107956, 0x10795d, 0x10798d, 0x10798e, 0x107a40, 0x107a81, 0x107bc0, 0x107df4, 0x107e09,
  0x107e41, 0x107f72, 0x108005, 0x1081ed, 0x108279, 0x108279, 0x108457, 0x108910, 0x108996,
  0x108b01, 0x108b39, 0x108cd3, 0x108d08, 0x108fb6, 0x109038, 0x1096e3, 0x1097ff, 0x10983b,
  0x106075, 0x1242ee, 0x108218, 0x304e26, 0x1051b5, 0x105168, 0x104f80, 0x105145, 0x105180,
  0x1052c7, 0x1052fa, 0x10559d, 0x105555, 0x105599, 0x1055e2, 0x10585a, 0x1058b3, 0x105944,
  0x105954, 0x105a62, 0x105b28, 0x105ed2, 0x105ed9, 0x105f69, 0x105fad, 0x1060d8, 0x10614e,
  0x106108, 0x10618e, 0x106160, 0x1061f2, 0x106234, 0x1063c4, 0x10641c, 0x106452, 0x106556,
  0x106674, 0x106717, 0x10671b, 0x106756, 0x106b79, 0x106bba, 0x106d41, 0x106edb, 0x106ecb,
  0x106f22, 0x10701e, 0x10716e, 0x1077a7, 0x107235, 0x1072af, 0x10732a, 0x107471, 0x107506,
  0x10753b, 0x10761d, 0x10761f, 0x1076ca, 0x1076db, 0x1076f4, 0x10774a, 0x107740, 0x1078cc,
  0x107ab1, 0x107bc0, 0x107c7b, 0x107d5b, 0x107df4, 0x107f3e, 0x108005, 0x108352, 0x1083ef,
  0x108779, 0x108941, 0x108986, 0x108996, 0x108abf, 0x108af8, 0x108acb, 0x108b01, 0x108afe,
  0x108aed, 0x108b39, 0x108b8a, 0x108d08, 0x108f38, 0x109072, 0x109199, 0x109276, 0x10967c,
  0x1096e3, 0x109756, 0x1097db, 0x1097ff, 0x10980b, 0x10983b, 0x109b12, 0x109f9c, 0x12284a,
  0x122844, 0x1233d5, 0x103b9d, 0x104018, 0x104039, 0x125249, 0x125cd0, 0x127ed3, 0x109f43,
  0x109f8e, 0x270006600066, 0x10006600069, 0x1000660006c, 0x1000660006600069, 0x100066000660006c,
  0x10007300074, 0x10007300074, 0xd0057400576, 0x10057400565, 0x1005740056b, 0x10057e00576,
  0x1005740056d, 0x6005d9005b4, 0x2005f2005b7, 0x1005e2, 0x1005d0, 0x1005d3, 0x1005d4, 0x1005db,
  0x1005dc, 0x1005dd, 0x1005e8, 0x1005ea, 0x10002b, 0x1005e9005c1, 0x1005e9005c2,
  0x1005e9005bc005c1, 0x1005e9005bc005c2, 0x1005d0005b7, 0x1005d0005b8, 0x1005d0005bc,
  0x1005d1005bc, 0x1005d2005bc, 0x1005d3005bc, 0x1005d4005bc, 0x1005d5005bc, 0x1005d6005bc,
  0x2005d8005bc, 0x1005d9005bc, 0x1005da005bc, 0x1005db005bc, 0x1005dc005bc, 0x2005de005bc,
  0x2005e0005bc, 0x1005e1005bc, 0x2005e3005bc, 0x1005e4005bc, 0x2005e6005bc, 0x1005e7005bc,
  0x1005e8005bc, 0x1005e9005bc, 0x1005ea005bc, 0x1005d5005b9, 0x1005d1005bf, 0x1005db005bf,
  0x1005e4005bf, 0x1005d0005dc, 0x100671, 0x100671, 0x10067b, 0x10067b, 0x10067b, 0x10067b,
  0x10067e, 0x10067e, 0x10067e, 0x10067e, 0x100680, 0x100680, 0x100680, 0x100680, 0x10067a,
  0x10067a, 0x10067a, 0x10067a, 0x10067f, 0x10067f, 0x10067f, 0x10067f, 0x100679, 0x100679,
  0x100679, 0x100679, 0x1006a4, 0x1006a4, 0x1006a4, 0x1006a4, 0x1006a6, 0x1006a6, 0x1006a6,
  0x1006a6, 0x100684, 0x100684, 0x100684, 0x100684, 0x100683, 0x100683, 0x100683, 0x100683,
  0x100686, 0x100686, 0x100686, 0x100686, 0x100687, 0x100687, 0x100687, 0x100687, 0x10068d,
  0x10068d, 0x10068c, 0x10068c, 0x10068e, 0x10068e, 0x100688, 0x100688, 0x100698, 0x100698,
  0x100691, 0x100691, 0x1006a9, 0x1006a9, 0x1006a9, 0x1006a9, 0x1006af, 0x1006af, 0x1006af,
  0x1006af, 0x1006b3, 0x1006b3, 0x1006b3, 0x1006b3, 0x1006b1, 0x1006b1, 0x1006b1, 0x1006b1,
  0x1006ba, 0x1006ba, 0x1006bb, 0x1006bb, 0x1006bb, 0x1006bb, 0x1006d500654, 0x1006d500654,
  0x1006c1, 0x1006c1, 0x1006c1, 0x1006c1, 0x1006be, 0x1006be, 0x1006be, 0x1006be, 0x1006d2,
  0x1006d2, 0x1006d200654, 0x1006d200654, 0x22006ad, 0x1006ad, 0x1006ad, 0x1006ad, 0x1006c7,
  0x1006c7, 0x1006c6, 0x1006c6, 0x1006c8, 0x1006c8, 0x1006c700674, 0x1006cb, 0x1006cb, 0x1006c5,
  0x1006c5, 0x1006c9, 0x1006c9, 0x1006d0, 0x1006d0, 0x1006d0, 0x1006d0, 0x100649, 0x100649,
  0x10064a0065400627, 0x10064a0065400627, 0x10064a00654006d5, 0x10064a00654006d5,
  0x10064a0065400648, 0x10064a0065400648, 0x10064a00654006c7, 0x10064a00654006c7,
  0x10064a00654006c6, 0x10064a00654006c6, 0x10064a00654006c8, 0x10064a00654006c8,
  0x10064a00654006d0, 0x10064a00654006d0, 0x10064a00654006d0, 0x10064a0065400649,
  0x10064a0065400649, 0x10064a0065400649, 0x1006cc, 0x1006cc, 0x1006cc, 0x1006cc,
  0x10064a006540062c, 0x10064a006540062d, 0x10064a0065400645, 0x10064a0065400649,
  0x10064a006540064a, 0x1006280062c, 0x1006280062d, 0x1006280062e, 0x10062800645, 0x10062800649,
  0x1006280064a, 0x10062a0062c, 0x10062a0062d, 0x10062a0062e, 0x10062a00645, 0x10062a00649,
  0x10062a0064a, 0x10062b0062c, 0x10062b00645, 0x10062b00649, 0x10062b0064a, 0x10062c0062d,
  0x10062c00645, 0x10062d0062c, 0x10062d00645, 0x10062e0062c, 0x10062e0062d, 0x10062e00645,
  0x1006330062c, 0x1006330062d, 0x1006330062e, 0x10063300645, 0x1006350062d, 0x10063500645,
  0x1006360062c, 0x1006360062d, 0x1006360062e, 0x10063600645, 0x1006370062d, 0x10063700645,
  0x10063800645, 0x1006390062c, 0x10063900645, 0x10063a0062c, 0x10063a00645, 0x1006410062c,
  0x1006410062d, 0x1006410062e, 0x10064100645, 0x10064100649, 0x1006410064a, 0x1006420062d,
  0x10064200645, 0x10064200649, 0x1006420064a, 0x10064300627, 0x1006430062c, 0x1006430062d,
  0x1006430062e, 0x10064300644, 0x10064300645, 0x10064300649, 0x1006430064a, 0x1006440062c,
  0x1006440062d, 0x1006440062e, 0x10064400645, 0x10064400649, 0x1006440064a, 0x1006450062c,
  0x1006450062d, 0x1006450062e, 0x10064500645, 0x10064500649, 0x1006450064a, 0x1006460062c,
  0x1006460062d, 0x1006460062e, 0x10064600645, 0x10064600649, 0x1006460064a, 0x1006470062c,
  0x10064700645, 0x10064700649, 0x1006470064a, 0x10064a0062c, 0x10064a0062d, 0x10064a0062e,
  0x10064a00645, 0x10064a00649, 0x10064a0064a, 0x10063000670, 0x10063100670, 0x10064900670,
  0x1000200064c00651, 0x1000200064d00651, 0x1000200064e00651, 0x1000200064f00651,
  0x1000200065000651, 0x1000200065100670, 0x10064a0065400631, 0x10064a0065400632,
  0x10064a0065400645, 0x10064a0065400646, 0x10064a0065400649, 0x10064a006540064a, 0x10062800631,
  0x10062800632, 0x10062800645, 0x10062800646, 0x10062800649, 0x1006280064a, 0x10062a00631,
  0x10062a00632, 0x10062a00645, 0x10062a00646, 0x10062a00649, 0x10062a0064a, 0x10062b00631,
  0x10062b00632, 0x10062b00645, 0x10062b00646, 0x10062b00649, 0x10062b0064a, 0x10064100649,
  0x1006410064a, 0x10064200649, 0x1006420064a, 0x10064300627, 0x10064300644, 0x10064300645,
  0x10064300649, 0x1006430064a, 0x10064400645, 0x10064400649, 0x1006440064a, 0x10064500627,
  0x10064500645, 0x10064600631, 0x10064600632, 0x10064600645, 0x10064600646, 0x10064600649,
  0x1006460064a, 0x10064900670, 0x10064a00631, 0x10064a00632, 0x10064a00645, 0x10064a00646,
  0x10064a00649, 0x10064a0064a, 0x10064a006540062c, 0x10064a006540062d, 0x10064a006540062e,
  0x10064a0065400645, 0x10064a0065400647, 0x1006280062c, 0x1006280062d, 0x1006280062e,
  0x10062800645, 0x10062800647, 0x10062a0062c, 0x10062a0062d, 0x10062a0062e, 0x10062a00645,
  0x10062a00647, 0x10062b00645, 0x10062c0062d, 0x10062c00645, 0x10062d0062c, 0x10062d00645,
  0x10062e0062c, 0x10062e00645, 0x1006330062c, 0x1006330062d, 0x1006330062e, 0x10063300645,
  0x1006350062d, 0x1006350062e, 0x10063500645, 0x1006360062c, 0x1006360062d, 0x1006360062e,
  0x10063600645, 0x1006370062d, 0x10063800645, 0x1006390062c, 0x10063900645, 0x10063a0062c,
  0x10063a00645, 0x1006410062c, 0x1006410062d, 0x1006410062e, 0x10064100645, 0x1006420062d,
  0x10064200645, 0x1006430062c, 0x1006430062d, 0x1006430062e, 0x10064300644, 0x10064300645,
  0x1006440062c, 0x1006440062d, 0x1006440062e, 0x10064400645, 0x10064400647, 0x1006450062c,
  0x1006450062d, 0x1006450062e, 0x10064500645, 0x1006460062c, 0x1006460062d, 0x1006460062e,
  0x10064600645, 0x10064600647, 0x1006470062c, 0x10064700645, 0x10064700670, 0x10064a0062c,
  0x10064a0062d, 0x10064a0062e, 0x10064a00645, 0x10064a00647, 0x10064a0065400645,
  0x10064a0065400647, 0x10062800645, 0x10062800647, 0x10062a00645, 0x10062a00647, 0x10062b00645,
  0x10062b00647, 0x10063300645, 0x10063300647, 0x10063400645, 0x10063400647, 0x10064300644,
  0x10064300645, 0x10064400645, 0x10064600645, 0x10064600647, 0x10064a00645, 0x10064a00647,
  0x1006400064e00651, 0x1006400064f00651, 0x1006400065000651, 0x10063700649, 0x1006370064a,
  0x10063900649, 0x1006390064a, 0x10063a00649, 0x10063a0064a, 0x10063300649, 0x1006330064a,
  0x10063400649, 0x1006340064a, 0x10062d00649, 0x10062d0064a, 0x10062c00649, 0x10062c0064a,
  0x10062e00649, 0x10062e0064a, 0x10063500649, 0x1006350064a, 0x10063600649, 0x1006360064a,
  0x1006340062c, 0x1006340062d, 0x1006340062e, 0x10063400645, 0x10063400631, 0x10063300631,
  0x10063500631, 0x10063600631, 0x10063700649, 0x1006370064a, 0x10063900649, 0x1006390064a,
  0x10063a00649, 0x10063a0064a, 0x10063300649, 0x1006330064a, 0x10063400649, 0x1006340064a,
  0x10062d00649, 0x10062d0064a, 0x10062c00649, 0x10062c0064a, 0x10062e00649, 0x10062e0064a,
  0x10063500649, 0x1006350064a, 0x10063600649, 0x1006360064a, 0x1006340062c, 0x1006340062d,
  0x1006340062e, 0x10063400645, 0x10063400631, 0x10063300631, 0x10063500631, 0x10063600631,
  0x1006340062c, 0x1006340062d, 0x1006340062e, 0x10063400645, 0x10063300647, 0x10063400647,
  0x10063700645, 0x1006330062c, 0x1006330062d, 0x1006330062e, 0x1006340062c, 0x1006340062d,
  0x1006340062e, 0x10063700645, 0x10063800645, 0x1006270064b, 0x1006270064b, 0x130062a0062c00645,
  0x10062a0062d0062c, 0x10062a0062d0062c, 0x10062a0062d00645, 0x10062a0062e00645,
  0x10062a006450062c, 0x10062a006450062d, 0x10062a006450062e, 0x10062c006450062d,
  0x10062c006450062d, 0x10062d006450064a, 0x10062d0064500649, 0x1006330062d0062c,
  0x1006330062c0062d, 0x1006330062c00649, 0x100633006450062d, 0x100633006450062d,
  0x100633006450062c, 0x1006330064500645, 0x1006330064500645, 0x1006350062d0062d,
  0x1006350062d0062d, 0x1006350064500645, 0x1006340062d00645, 0x1006340062d00645,
  0x1006340062c0064a, 0x100634006450062e, 0x100634006450062e, 0x1006340064500645,
  0x1006340064500645, 0x1006360062d00649, 0x1006360062e00645, 0x1006360062e00645,
  0x100637006450062d, 0x100637006450062d, 0x1006370064500645, 0x100637006450064a,
  0x1006390062c00645, 0x1006390064500645, 0x1006390064500645, 0x1006390064500649,
  0x10063a0064500645, 0x10063a006450064a, 0x10063a0064500649, 0x1006410062e00645,
  0x1006410062e00645, 0x100642006450062d, 0x1006420064500645, 0x1006440062d00645,
  0x1006440062d0064a, 0x1006440062d00649, 0x1006440062c0062c, 0x1006440062c0062c,
  0x1006440062e00645, 0x1006440062e00645, 0x100644006450062d, 0x100644006450062d,
  0x1006450062d0062c, 0x1006450062d00645, 0x1006450062d0064a, 0x1006450062c0062d,
  0x1006450062c00645, 0x1006450062e0062c, 0x1006450062e00645, 0x3006450062c0062e,
  0x100647006450062c, 0x1006470064500645, 0x1006460062d00645, 0x1006460062d00649,
  0x1006460062c00645, 0x1006460062c00645, 0x1006460062c00649, 0x100646006450064a,
  0x1006460064500649, 0x10064a0064500645, 0x10064a0064500645, 0x1006280062e0064a,
  0x10062a0062c0064a, 0x10062a0062c00649, 0x10062a0062e0064a, 0x10062a0062e00649,
  0x10062a006450064a, 0x10062a0064500649, 0x10062c006450064a, 0x10062c0062d00649,
  0x10062c0064500649, 0x1006330062e00649, 0x1006350062d0064a, 0x1006340062d0064a,
  0x1006360062d0064a, 0x1006440062c0064a, 0x100644006450064a, 0x10064a0062d0064a,
  0x10064a0062c0064a, 0x10064a006450064a, 0x100645006450064a, 0x100642006450064a,
  0x1006460062d0064a, 0x100642006450062d, 0x1006440062d00645, 0x100639006450064a,
  0x100643006450064a, 0x1006460062c0062d, 0x1006450062e0064a, 0x1006440062c00645,
  0x1006430064500645, 0x1006440062c00645, 0x1006460062c0062d, 0x10062c0062d0064a,
  0x10062d0062c0064a, 0x1006450062c0064a, 0x100641006450064a, 0x1006280062d0064a,
  0x1006430064500645, 0x1006390062c00645, 0x1006350064500645, 0x1006330062e0064a,
  0x1006460062c0064a, 0x290063500644006d2, 0x10064200644006d2, 0x100627006440064400647,
  0x100627006430062800631, 0x1006450062d006450062f, 0x100635006440063900645,
  0x100631006330064800644, 0x100639006440064a00647, 0x100648006330064400645, 0x1006350064400649,
  0x100635006440064900020006270064400644006470002000639006440064a006470002000648006330064400645,
  0x10062c00644000200062c00644006270064400647, 0x100631006cc0062700644, 0x140002c, 0x103001,
  0x103002, 0x10003a, 0x10003b, 0x100021, 0x10003f, 0x103016, 0x103017, 0x10002e0002e0002e,
  0x170002e0002e, 0x102014, 0x102013, 0x10005f, 0x10005f, 0x100028, 0x100029, 0x10007b, 0x10007d,
  0x103014, 0x103015, 0x103010, 0x103011, 0x10300a, 0x10300b, 0x103008, 0x103009, 0x10300c,
  0x10300d, 0x10300e, 0x10300f, 0x30005b, 0x10005d, 0x10002000305, 0x10002000305, 0x10002000305,
  0x10002000305, 0x10005f, 0x10005f, 0x10005f, 0x10002c, 0x103001, 0x10002e, 0x20003b, 0x10003a,
  0x10003f, 0x100021, 0x102014, 0x100028, 0x100029, 0x10007b, 0x10007d, 0x103014, 0x103015,
  0x100023, 0x100026, 0x10002a, 0x10002b, 0x10002d, 0x10003c, 0x10003e, 0x10003d, 0x20005c,
  0x100024, 0x100025, 0x100040, 0x5000200064b, 0x1006400064b, 0x1000200064c, 0x2000200064d,
  0x2000200064e, 0x1006400064e, 0x1000200064f, 0x1006400064f, 0x10002000650, 0x10064000650,
  0x10002000651, 0x10064000651, 0x10002000652, 0x10064000652, 0x100621, 0x10062700653,
  0x10062700653, 0x10062700654, 0x10062700654, 0x10064800654, 0x10064800654, 0x10062700655,
  0x10062700655, 0x10064a00654, 0x10064a00654, 0x10064a00654, 0x10064a00654, 0x100627, 0x100627,
  0x100628, 0x100628, 0x100628, 0x100628, 0x100629, 0x100629, 0x10062a, 0x10062a, 0x10062a,
  0x10062a, 0x10062b, 0x10062b, 0x10062b, 0x10062b, 0x10062c, 0x10062c, 0x10062c, 0x10062c,
  0x10062d, 0x10062d, 0x10062d, 0x10062d, 0x10062e, 0x10062e, 0x10062e, 0x10062e, 0x10062f,
  0x10062f, 0x100630, 0x100630, 0x100631, 0x100631, 0x100632, 0x100632, 0x100633, 0x100633,
  0x100633, 0x100633, 0x100634, 0x100634, 0x100634, 0x100634, 0x100635, 0x100635, 0x100635,
  0x100635, 0x100636, 0x100636, 0x100636, 0x100636, 0x100637, 0x100637, 0x100637, 0x100637,
  0x100638, 0x100638, 0x100638, 0x100638, 0x100639, 0x100639, 0x100639, 0x100639, 0x10063a,
  0x10063a, 0x10063a, 0x10063a, 0x100641, 0x100641, 0x100641, 0x100641, 0x100642, 0x100642,
  0x100642, 0x100642, 0x100643, 0x100643, 0x100643, 0x100643, 0x100644, 0x100644, 0x100644,
  0x100644, 0x100645, 0x100645, 0x100645, 0x100645, 0x100646, 0x100646, 0x100646, 0x100646,
  0x100647, 0x100647, 0x100647, 0x100647, 0x100648, 0x100648, 0x100649, 0x100649, 0x10064a,
  0x10064a, 0x10064a, 0x10064a, 0x1006440062700653, 0x1006440062700653, 0x1006440062700654,
  0x1006440062700654, 0x1006440062700655, 0x1006440062700655, 0x10064400627, 0x10064400627,
  0x500021, 0x100022, 0x100023, 0x100024, 0x100025, 0x100026, 0x100027, 0x100028, 0x100029,
  0x10002a, 0x10002b, 0x10002c, 0x10002d, 0x10002e, 0x10002f, 0x100030, 0x100031, 0x100032,
  0x100033, 0x100034, 0x100035, 0x100036, 0x100037, 0x100038, 0x100039, 0x10003a, 0x10003b,
  0x10003c, 0x10003d, 0x10003e, 0x10003f, 0x100040, 0x100041, 0x100042, 0x100043, 0x100044,
  0x100045, 0x100046, 0x100047, 0x100048, 0x100049, 0x10004a, 0x10004b, 0x10004c, 0x10004d,
  0x10004e, 0x10004f, 0x100050, 0x100051, 0x100052, 0x100053, 0x100054, 0x100055, 0x100056,
  0x100057, 0x100058, 0x100059, 0x10005a, 0x10005b, 0x10005c, 0x10005d, 0x10005e, 0x10005f,
  0x100060, 0x100061, 0x100062, 0x100063, 0x100064, 0x100065, 0x100066, 0x100067, 0x100068,
  0x100069, 0x10006a, 0x10006b, 0x10006c, 0x10006d, 0x10006e, 0x10006f, 0x100070, 0x100071,
  0x100072, 0x100073, 0x100074, 0x100075, 0x100076, 0x100077, 0x100078, 0x100079, 0x10007a,
  0x10007b, 0x10007c, 0x10007d, 0x10007e, 0x102985, 0x102986, 0x103002, 0x10300c, 0x10300d,
  0x103001, 0x1030fb, 0x1030f2, 0x1030a1, 0x1030a3, 0x1030a5, 0x1030a7, 0x1030a9, 0x1030e3,
  0x1030e5, 0x1030e7, 0x1030c3, 0x1030fc, 0x1030a2, 0x1030a4, 0x1030a6, 0x1030a8, 0x1030aa,
  0x1030ab, 0x1030ad, 0x1030af, 0x1030b1, 0x1030b3, 0x1030b5, 0x1030b7, 0x1030b9, 0x1030bb,
  0x1030bd, 0x1030bf, 0x1030c1, 0x1030c4, 0x1030c6, 0x1030c8, 0x1030ca, 0x1030cb, 0x1030cc,
  0x1030cd, 0x1030ce, 0x1030cf, 0x1030d2, 0x1030d5, 0x1030d8, 0x1030db, 0x1030de, 0x1030df,
  0x1030e0, 0x1030e1, 0x1030e2, 0x1030e4, 0x1030e6, 0x1030e8, 0x1030e9, 0x1030ea, 0x1030eb,
  0x1030ec, 0x1030ed, 0x1030ef, 0x1030f3, 0x103099, 0x10309a, 0x101160, 0x101100, 0x101101,
  0x1011aa, 0x101102, 0x1011ac, 0x1011ad, 0x101103, 0x101104, 0x101105, 0x1011b0, 0x1011b1,
  0x1011b2, 0x1011b3, 0x1011b4, 0x1011b5, 0x10111a, 0x101106, 0x101107, 0x101108, 0x101121,
  0x101109, 0x10110a, 0x10110b, 0x10110c, 0x10110d, 0x10110e, 0x10110f, 0x101110, 0x101111,
  0x101112, 0x401161, 0x101162, 0x101163, 0x101164, 0x101165, 0x101166, 0x301167, 0x101168,
  0x101169, 0x10116a, 0x10116b, 0x10116c, 0x30116d, 0x10116e, 0x10116f, 0x101170, 0x101171,
  0x101172, 0x301173, 0x101174, 0x101175, 0x4000a2, 0x1000a3, 0x1000ac, 0x10002000304, 0x1000a6,
  0x1000a5, 0x1020a9, 0x202502, 0x102190, 0x102191, 0x102192, 0x102193, 0x1025a0, 0x1025cb]

/-- The decompositions from `U+10000` up to `U+1EE00`, mathematical letters above all. -/
def mathematicalRows : List Nat := [
  0x793002d0, 0x1002d1, 0x1000e6, 0x100299, 0x100253, 0x2002a3, 0x10ab66, 0x1002a5, 0x1002a4,
  0x100256, 0x100257, 0x101d91, 0x100258, 0x10025e, 0x1002a9, 0x100264, 0x100262, 0x100260,
  0x10029b, 0x100127, 0x10029c, 0x100267, 0x100284, 0x1002aa, 0x1002ab, 0x10026c, 0x11df04,
  0x10a78e, 0x10026e, 0x11df05, 0x10028e, 0x11df06, 0x1000f8, 0x100276, 0x100277, 0x100071,
  0x10027a, 0x11df08, 0x10027d, 0x10027e, 0x100280, 0x1002a8, 0x1002a6, 0x10ab67, 0x1002a7,
  0x100288, 0x102c71, 0x20028f, 0x1002a1, 0x1002a2, 0x100298, 0x1001c0, 0x1001c1, 0x1001c2,
  0x11df0a, 0x11df1e, 0x8e011099110ba, 0x21109b110ba, 0xf110a5110ba, 0x831113111127, 0x11113211127,
  0x21c113471133e, 0x11134711357, 0x16f114b9114ba, 0x1114b9114b0, 0x2114b9114bd, 0xfc115b8115af,
  0x1115b9115af, 0x37d1193511930, 0xb8261d1571d165, 0x11d1581d165, 0x11d1581d1651d16e,
  0x11d1581d1651d16f, 0x11d1581d1651d170, 0x11d1581d1651d171, 0x11d1581d1651d172, 0x571d1b91d165,
  0x11d1ba1d165, 0x11d1b91d1651d16e, 0x11d1ba1d1651d16e, 0x11d1b91d1651d16f, 0x11d1ba1d1651d16f,
  0x24000041, 0x100042, 0x100043, 0x100044, 0x100045, 0x100046, 0x100047, 0x100048, 0x100049,
  0x10004a, 0x10004b, 0x10004c, 0x10004d, 0x10004e, 0x10004f, 0x100050, 0x100051, 0x100052,
  0x100053, 0x100054, 0x100055, 0x100056, 0x100057, 0x100058, 0x100059, 0x10005a, 0x100061,
  0x100062, 0x100063, 0x100064, 0x100065, 0x100066, 0x100067, 0x100068, 0x100069, 0x10006a,
  0x10006b, 0x10006c, 0x10006d, 0x10006e, 0x10006f, 0x100070, 0x100071, 0x100072, 0x100073,
  0x100074, 0x100075, 0x100076, 0x100077, 0x100078, 0x100079, 0x10007a, 0x100041, 0x100042,
  0x100043, 0x100044, 0x100045, 0x100046, 0x100047, 0x100048, 0x100049, 0x10004a, 0x10004b,
  0x10004c, 0x10004d, 0x10004e, 0x10004f, 0x100050, 0x100051, 0x100052, 0x100053, 0x100054,
  0x100055, 0x100056, 0x100057, 0x100058, 0x100059, 0x10005a, 0x100061, 0x100062, 0x100063,
  0x100064, 0x100065, 0x100066, 0x100067, 0x200069, 0x10006a, 0x10006b, 0x10006c, 0x10006d,
  0x10006e, 0x10006f, 0x100070, 0x100071, 0x100072, 0x100073, 0x100074, 0x100075, 0x100076,
  0x100077, 0x100078, 0x100079, 0x10007a, 0x100041, 0x100042, 0x100043, 0x100044, 0x100045,
  0x100046, 0x100047, 0x100048, 0x100049, 0x10004a, 0x10004b, 0x10004c, 0x10004d, 0x10004e,
  0x10004f, 0x100050, 0x100051, 0x100052, 0x100053, 0x100054, 0x100055, 0x100056, 0x100057,
  0x100058, 0x100059, 0x10005a, 0x100061, 0x100062, 0x100063, 0x100064, 0x100065, 0x100066,
  0x100067, 0x100068, 0x100069, 0x10006a, 0x10006b, 0x10006c, 0x10006d, 0x10006e, 0x10006f,
  0x100070, 0x100071, 0x100072, 0x100073, 0x100074, 0x100075, 0x100076, 0x100077, 0x100078,
  0x100079, 0x10007a, 0x100041, 0x200043, 0x100044, 0x300047, 0x30004a, 0x10004b, 0x30004e,
  0x10004f, 0x100050, 0x100051, 0x200053, 0x100054, 0x100055, 0x100056, 0x100057, 0x100058,
  0x100059, 0x10005a, 0x100061, 0x100062, 0x100063, 0x100064, 0x200066, 0x200068, 0x100069,
  0x10006a, 0x10006b, 0x10006c, 0x10006d, 0x10006e, 0x200070, 0x100071, 0x100072, 0x100073,
  0x100074, 0x100075, 0x100076, 0x100077, 0x100078, 0x100079, 0x10007a, 0x100041, 0x100042,
  0x100043, 0x100044, 0x100045, 0x100046, 0x100047, 0x100048, 0x100049, 0x10004a, 0x10004b,
  0x10004c, 0x10004d, 0x10004e, 0x10004f, 0x100050, 0x100051, 0x100052, 0x100053, 0x100054,
  0x100055, 0x100056, 0x100057, 0x100058, 0x100059, 0x10005a, 0x100061, 0x100062, 0x100063,
  0x100064, 0x100065, 0x100066, 0x100067, 0x100068, 0x100069, 0x10006a, 0x10006b, 0x10006c,
  0x10006d, 0x10006e, 0x10006f, 0x100070, 0x100071, 0x100072, 0x100073, 0x100074, 0x100075,
  0x100076, 0x100077, 0x100078, 0x100079, 0x10007a, 0x100041, 0x100042, 0x200044, 0x100045,
  0x100046, 0x100047, 0x30004a, 0x10004b, 0x10004c, 0x10004d, 0x10004e, 0x10004f, 0x100050,
  0x100051, 0x200053, 0x100054, 0x100055, 0x100056, 0x100057, 0x100058, 0x100059, 0x200061,
  0x100062, 0x100063, 0x100064, 0x100065, 0x100066, 0x100067, 0x100068, 0x100069, 0x10006a,
  0x10006b, 0x10006c, 0x10006d, 0x10006e, 0x10006f, 0x100070, 0x100071, 0x100072, 0x100073,
  0x100074, 0x100075, 0x100076, 0x100077, 0x100078, 0x100079, 0x10007a, 0x100041, 0x100042,
  0x200044, 0x100045, 0x100046, 0x100047, 0x200049, 0x10004a, 0x10004b, 0x10004c, 0x10004d,
  0x20004f, 0x400053, 0x100054, 0x100055, 0x100056, 0x100057, 0x100058, 0x100059, 0x200061,
  0x100062, 0x100063, 0x100064, 0x100065, 0x100066, 0x100067, 0x100068, 0x100069, 0x10006a,
  0x10006b, 0x10006c, 0x10006d, 0x10006e, 0x10006f, 0x100070, 0x100071, 0x100072, 0x100073,
  0x100074, 0x100075, 0x100076, 0x100077, 0x100078, 0x100079, 0x10007a, 0x100041, 0x100042,
  0x100043, 0x100044, 0x100045, 0x100046, 0x100047, 0x100048, 0x100049, 0x10004a, 0x10004b,
  0x10004c, 0x10004d, 0x10004e, 0x10004f, 0x100050, 0x100051, 0x100052, 0x100053, 0x100054,
  0x100055, 0x100056, 0x100057, 0x100058, 0x100059, 0x10005a, 0x100061, 0x100062, 0x100063,
  0x100064, 0x100065, 0x100066, 0x100067, 0x100068, 0x100069, 0x10006a, 0x10006b, 0x10006c,
  0x10006d, 0x10006e, 0x10006f, 0x100070, 0x100071, 0x100072, 0x100073, 0x100074, 0x100075,
  0x100076, 0x100077, 0x100078, 0x100079, 0x10007a, 0x100041, 0x100042, 0x100043, 0x100044,
  0x100045, 0x100046, 0x100047, 0x100048, 0x100049, 0x10004a, 0x10004b, 0x10004c, 0x10004d,
  0x10004e, 0x10004f, 0x100050, 0x100051, 0x100052, 0x100053, 0x100054, 0x100055, 0x100056,
  0x100057, 0x100058, 0x100059, 0x10005a, 0x100061, 0x100062, 0x100063, 0x100064, 0x100065,
  0x100066, 0x100067, 0x100068, 0x100069, 0x10006a, 0x10006b, 0x10006c, 0x10006d, 0x10006e,
  0x10006f, 0x100070, 0x100071, 0x100072, 0x100073, 0x100074, 0x100075, 0x100076, 0x100077,
  0x100078, 0x100079, 0x10007a, 0x100041, 0x100042, 0x100043, 0x100044, 0x100045, 0x100046,
  0x100047, 0x100048, 0x100049, 0x10004a, 0x10004b, 0x10004c, 0x10004d, 0x10004e, 0x10004f,
  0x100050, 0x100051, 0x100052, 0x100053, 0x100054, 0x100055, 0x100056, 0x100057, 0x100058,
  0x100059, 0x10005a, 0x100061, 0x100062, 0x100063, 0x100064, 0x100065, 0x100066, 0x100067,
  0x100068, 0x100069, 0x10006a, 0x10006b, 0x10006c, 0x10006d, 0x10006e, 0x10006f, 0x100070,
  0x100071, 0x100072, 0x100073, 0x100074, 0x100075, 0x100076, 0x100077, 0x100078, 0x100079,
  0x10007a, 0x100041, 0x100042, 0x100043, 0x100044, 0x100045, 0x100046, 0x100047, 0x100048,
  0x100049, 0x10004a, 0x10004b, 0x10004c, 0x10004d, 0x10004e, 0x10004f, 0x100050, 0x100051,
  0x100052, 0x100053, 0x100054, 0x100055, 0x100056, 0x100057, 0x100058, 0x100059, 0x10005a,
  0x100061, 0x100062, 0x100063, 0x100064, 0x100065, 0x100066, 0x100067, 0x100068, 0x100069,
  0x10006a, 0x10006b, 0x10006c, 0x10006d, 0x10006e, 0x10006f, 0x100070, 0x100071, 0x100072,
  0x100073, 0x100074, 0x100075, 0x100076, 0x100077, 0x100078, 0x100079, 0x10007a, 0x100041,
  0x100042, 0x100043, 0x100044, 0x100045, 0x100046, 0x100047, 0x100048, 0x100049, 0x10004a,
  0x10004b, 0x10004c, 0x10004d, 0x10004e, 0x10004f, 0x100050, 0x100051, 0x100052, 0x100053,
  0x100054, 0x100055, 0x100056, 0x100057, 0x100058, 0x100059, 0x10005a, 0x100061, 0x100062,
  0x100063, 0x100064, 0x100065, 0x100066, 0x100067, 0x100068, 0x100069, 0x10006a, 0x10006b,
  0x10006c, 0x10006d, 0x10006e, 0x10006f, 0x100070, 0x100071, 0x100072, 0x100073, 0x100074,
  0x100075, 0x100076, 0x100077, 0x100078, 0x100079, 0x10007a, 0x100041, 0x100042, 0x100043,
  0x100044, 0x100045, 0x100046, 0x100047, 0x100048, 0x100049, 0x10004a, 0x10004b, 0x10004c,
  0x10004d, 0x10004e, 0x10004f, 0x100050, 0x100051, 0x100052, 0x100053, 0x100054, 0x100055,
  0x100056, 0x100057, 0x100058, 0x100059, 0x10005a, 0x100061, 0x100062, 0x100063, 0x100064,
  0x100065, 0x100066, 0x100067, 0x100068, 0x100069, 0x10006a, 0x10006b, 0x10006c, 0x10006d,
  0x10006e, 0x10006f, 0x100070, 0x100071, 0x100072, 0x100073, 0x100074, 0x100075, 0x100076,
  0x100077, 0x100078, 0x100079, 0x10007a, 0x100131, 0x100237, 0x300391, 0x100392, 0x100393,
  0x100394, 0x100395, 0x100396, 0x100397, 0x100398, 0x100399, 0x10039a, 0x10039b, 0x10039c,
  0x10039d, 0x10039e, 0x10039f, 0x1003a0, 0x1003a1, 0x100398, 0x1003a3, 0x1003a4, 0x1003a5,
  0x1003a6, 0x1003a7, 0x1003a8, 0x1003a9, 0x102207, 0x1003b1, 0x1003b2, 0x1003b3, 0x1003b4,
  0x1003b5, 0x1003b6, 0x1003b7, 0x1003b8, 0x1003b9, 0x1003ba, 0x1003bb, 0x1003bc, 0x1003bd,
  0x1003be, 0x1003bf, 0x1003c0, 0x1003c1, 0x1003c2, 0x1003c3, 0x1003c4, 0x1003c5, 0x1003c6,
  0x1003c7, 0x1003c8, 0x1003c9, 0x102202, 0x1003b5, 0x1003b8, 0x1003ba, 0x1003c6, 0x1003c1,
  0x1003c0, 0x100391, 0x100392, 0x100393, 0x100394, 0x100395, 0x100396, 0x100397, 0x100398,
  0x100399, 0x10039a, 0x10039b, 0x10039c, 0x10039d, 0x10039e, 0x10039f, 0x1003a0, 0x1003a1,
  0x100398, 0x1003a3, 0x1003a4, 0x1003a5, 0x1003a6, 0x1003a7, 0x1003a8, 0x1003a9, 0x102207,
  0x1003b1, 0x1003b2, 0x1003b3, 0x1003b4, 0x1003b5, 0x1003b6, 0x1003b7, 0x1003b8, 0x1003b9,
  0x1003ba, 0x1003bb, 0x1003bc, 0x1003bd, 0x1003be, 0x1003bf, 0x1003c0, 0x1003c1, 0x1003c2,
  0x1003c3, 0x1003c4, 0x1003c5, 0x1003c6, 0x1003c7, 0x1003c8, 0x1003c9, 0x102202, 0x1003b5,
  0x1003b8, 0x1003ba, 0x1003c6, 0x1003c1, 0x1003c0, 0x100391, 0x100392, 0x100393, 0x100394,
  0x100395, 0x100396, 0x100397, 0x100398, 0x100399, 0x10039a, 0x10039b, 0x10039c, 0x10039d,
  0x10039e, 0x10039f, 0x1003a0, 0x1003a1, 0x100398, 0x1003a3, 0x1003a4, 0x1003a5, 0x1003a6,
  0x1003a7, 0x1003a8, 0x1003a9, 0x102207, 0x1003b1, 0x1003b2, 0x1003b3, 0x1003b4, 0x1003b5,
  0x1003b6, 0x1003b7, 0x1003b8, 0x1003b9, 0x1003ba, 0x1003bb, 0x1003bc, 0x1003bd, 0x1003be,
  0x1003bf, 0x1003c0, 0x1003c1, 0x1003c2, 0x1003c3, 0x1003c4, 0x1003c5, 0x1003c6, 0x1003c7,
  0x1003c8, 0x1003c9, 0x102202, 0x1003b5, 0x1003b8, 0x1003ba, 0x1003c6, 0x1003c1, 0x1003c0,
  0x100391, 0x100392, 0x100393, 0x100394, 0x100395, 0x100396, 0x100397, 0x100398, 0x100399,
  0x10039a, 0x10039b, 0x10039c, 0x10039d, 0x10039e, 0x10039f, 0x1003a0, 0x1003a1, 0x100398,
  0x1003a3, 0x1003a4, 0x1003a5, 0x1003a6, 0x1003a7, 0x1003a8, 0x1003a9, 0x102207, 0x1003b1,
  0x1003b2, 0x1003b3, 0x1003b4, 0x1003b5, 0x1003b6, 0x1003b7, 0x1003b8, 0x1003b9, 0x1003ba,
  0x1003bb, 0x1003bc, 0x1003bd, 0x1003be, 0x1003bf, 0x1003c0, 0x1003c1, 0x1003c2, 0x1003c3,
  0x1003c4, 0x1003c5, 0x1003c6, 0x1003c7, 0x1003c8, 0x1003c9, 0x102202, 0x1003b5, 0x1003b8,
  0x1003ba, 0x1003c6, 0x1003c1, 0x1003c0, 0x100391, 0x100392, 0x100393, 0x100394, 0x100395,
  0x100396, 0x100397, 0x100398, 0x100399, 0x10039a, 0x10039b, 0x10039c, 0x10039d, 0x10039e,
  0x10039f, 0x1003a0, 0x1003a1, 0x100398, 0x1003a3, 0x1003a4, 0x1003a5, 0x1003a6, 0x1003a7,
  0x1003a8, 0x1003a9, 0x102207, 0x1003b1, 0x1003b2, 0x1003b3, 0x1003b4, 0x1003b5, 0x1003b6,
  0x1003b7, 0x1003b8, 0x1003b9, 0x1003ba, 0x1003bb, 0x1003bc, 0x1003bd, 0x1003be, 0x1003bf,
  0x1003c0, 0x1003c1, 0x1003c2, 0x1003c3, 0x1003c4, 0x1003c5, 0x1003c6, 0x1003c7, 0x1003c8,
  0x1003c9, 0x102202, 0x1003b5, 0x1003b8, 0x1003ba, 0x1003c6, 0x1003c1, 0x1003c0, 0x1003dc,
  0x1003dd, 0x300030, 0x100031, 0x100032, 0x100033, 0x100034, 0x100035, 0x100036, 0x100037,
  0x100038, 0x100039, 0x100030, 0x100031, 0x100032, 0x100033, 0x100034, 0x100035, 0x100036,
  0x100037, 0x100038, 0x100039, 0x100030, 0x100031, 0x100032, 0x100033, 0x100034, 0x100035,
  0x100036, 0x100037, 0x100038, 0x100039, 0x100030, 0x100031, 0x100032, 0x100033, 0x100034,
  0x100035, 0x100036, 0x100037, 0x100038, 0x100039, 0x100030, 0x100031, 0x100032, 0x100033,
  0x100034, 0x100035, 0x100036, 0x100037, 0x100038, 0x100039]

/-- The decompositions from `U+1EE00` on. -/
def supplementRows : List Nat := [
  0x160100627, 0x100628, 0x10062c, 0x10062f, 0x200648, 0x100632, 0x10062d, 0x100637, 0x10064a,
  0x100643, 0x100644, 0x100645, 0x100646, 0x100633, 0x100639, 0x100641, 0x100635, 0x100642,
  0x100631, 0x100634, 0x10062a, 0x10062b, 0x10062e, 0x100630, 0x100636, 0x100638, 0x10063a,
  0x10066e, 0x1006ba, 0x1006a1, 0x10066f, 0x200628, 0x10062c, 0x200647, 0x30062d, 0x20064a,
  0x100643, 0x100644, 0x100645, 0x100646, 0x100633, 0x100639, 0x100641, 0x100635, 0x100642,
  0x200634, 0x10062a, 0x10062b, 0x10062e, 0x200636, 0x20063a, 0x70062c, 0x50062d, 0x20064a,
  0x200644, 0x200646, 0x100633, 0x100639, 0x200635, 0x100642, 0x200634, 0x30062e, 0x200636,
  0x20063a, 0x2006ba, 0x20066f, 0x200628, 0x10062c, 0x200647, 0x30062d, 0x100637, 0x10064a,
  0x100643, 0x200645, 0x100646, 0x100633, 0x100639, 0x100641, 0x100635, 0x100642, 0x200634,
  0x10062a, 0x10062b, 0x10062e, 0x200636, 0x100638, 0x10063a, 0x10066e, 0x2006a1, 0x200627,
  0x100628, 0x10062c, 0x10062f, 0x100647, 0x100648, 0x100632, 0x10062d, 0x100637, 0x10064a,
  0x200644, 0x100645, 0x100646, 0x100633, 0x100639, 0x100641, 0x100635, 0x100642, 0x100631,
  0x100634, 0x10062a, 0x10062b, 0x10062e, 0x100630, 0x100636, 0x100638, 0x10063a, 0x600628,
  0x10062c, 0x10062f, 0x200648, 0x100632, 0x10062d, 0x100637, 0x10064a, 0x200644, 0x100645,
  0x100646, 0x100633, 0x100639, 0x100641, 0x100635, 0x100642, 0x100631, 0x100634, 0x10062a,
  0x10062b, 0x10062e, 0x100630, 0x100636, 0x100638, 0x10063a, 0x245000300002e, 0x1000300002c,
  0x1000310002c, 0x1000320002c, 0x1000330002c, 0x1000340002c, 0x1000350002c, 0x1000360002c,
  0x1000370002c, 0x1000380002c, 0x1000390002c, 0x6000280004100029, 0x1000280004200029,
  0x1000280004300029, 0x1000280004400029, 0x1000280004500029, 0x1000280004600029,
  0x1000280004700029, 0x1000280004800029, 0x1000280004900029, 0x1000280004a00029,
  0x1000280004b00029, 0x1000280004c00029, 0x1000280004d00029, 0x1000280004e00029,
  0x1000280004f00029, 0x1000280005000029, 0x1000280005100029, 0x1000280005200029,
  0x1000280005300029, 0x1000280005400029, 0x1000280005500029, 0x1000280005600029,
  0x1000280005700029, 0x1000280005800029, 0x1000280005900029, 0x1000280005a00029,
  0x1030140005303015, 0x100043, 0x100052, 0x10004300044, 0x1000570005a, 0x200041, 0x100042,
  0x100043, 0x100044, 0x100045, 0x100046, 0x100047, 0x100048, 0x100049, 0x10004a, 0x10004b,
  0x10004c, 0x10004d, 0x10004e, 0x10004f, 0x100050, 0x100051, 0x100052, 0x100053, 0x100054,
  0x100055, 0x100056, 0x100057, 0x100058, 0x100059, 0x10005a, 0x10004800056, 0x10004d00056,
  0x10005300044, 0x10005300053, 0x1000500005000056, 0x10005700043, 0x1b0004d00043, 0x10004d00044,
  0x10004d00052, 0x24000440004a, 0x700307b0304b, 0x1030b3030b3, 0x1030b5, 0xe0624b, 0x105b57,
  0x1053cc, 0x1030c603099, 0x104e8c, 0x10591a, 0x1089e3, 0x105929, 0x104ea4, 0x106620, 0x107121,
  0x106599, 0x10524d, 0x105f8c, 0x10518d, 0x1065b0, 0x10521d, 0x107d42, 0x10751f, 0x108ca9,
  0x1058f0, 0x105439, 0x106f14, 0x106295, 0x106355, 0x104e00, 0x104e09, 0x10904a, 0x105de6,
  0x104e2d, 0x1053f3, 0x106307, 0x108d70, 0x106253, 0x107981, 0x107a7a, 0x105408, 0x106e80,
  0x106709, 0x106708, 0x107533, 0x105272, 0x1055b6, 0x10914d, 0x5030140672c03015,
  0x10301404e0903015, 0x10301404e8c03015, 0x10301405b8903015, 0x103014070b903015,
  0x1030140625303015, 0x103014076d703015, 0x103014052dd03015, 0x1030140655703015, 0x805f97,
  0x1053ef, 0x99f00030, 0x100031, 0x100032, 0x100033, 0x100034, 0x100035, 0x100036, 0x100037,
  0x100038, 0x100039, 0xfc0704e3d, 0x104e38, 0x104e41, 0x120122, 0x104f60, 0x104fae, 0x104fbb,
  0x105002, 0x10507a, 0x105099, 0x1050e7, 0x1050cf, 0x10349e, 0x12063a, 0x10514d, 0x105154,
  0x105164, 0x105177, 0x12051c, 0x1034b9, 0x105167, 0x10518d, 0x12054b, 0x105197, 0x1051a4,
  0x104ecc, 0x1051ac, 0x1051b5, 0x1291df, 0x1051f5, 0x105203, 0x1034df, 0x10523b, 0x105246,
  0x105272, 0x105277, 0x103515, 0x1052c7, 0x1052c9, 0x1052e4, 0x1052fa, 0x105305, 0x105306,
  0x105317, 0x105349, 0x105351, 0x10535a, 0x105373, 0x10537d, 0x10537f, 0x10537f, 0x10537f,
  0x120a2c, 0x107070, 0x1053ca, 0x1053df, 0x120b63, 0x1053eb, 0x1053f1, 0x105406, 0x10549e,
  0x105438, 0x105448, 0x105468, 0x1054a2, 0x1054f6, 0x105510, 0x105553, 0x105563, 0x105584,
  0x105584, 0x105599, 0x1055ab, 0x1055b3, 0x1055c2, 0x105716, 0x105606, 0x105717, 0x105651,
  0x105674, 0x105207, 0x1058ee, 0x1057ce, 0x1057f4, 0x10580d, 0x10578b, 0x105832, 0x105831,
  0x1058ac, 0x1214e4, 0x1058f2, 0x1058f7, 0x105906, 0x10591a, 0x105922, 0x105962, 0x1216a8,
  0x1216ea, 0x1059ec, 0x105a1b, 0x105a27, 0x1059d8, 0x105a66, 0x1036ee, 0x1036fc, 0x105b08,
  0x105b3e, 0x105b3e, 0x1219c8, 0x105bc3, 0x105bd8, 0x105be7, 0x105bf3, 0x121b18, 0x105bff,
  0x105c06, 0x105f53, 0x105c22, 0x103781, 0x105c60, 0x105c6e, 0x105cc0, 0x105c8d, 0x121de4,
  0x105d43, 0x121de6, 0x105d6e, 0x105d6b, 0x105d7c, 0x105de1, 0x105de2, 0x10382f, 0x105dfd,
  0x105e28, 0x105e3d, 0x105e69, 0x103862, 0x122183, 0x10387c, 0x105eb0, 0x105eb3, 0x105eb6,
  0x105eca, 0x12a392, 0x105efe, 0x122331, 0x122331, 0x108201, 0x105f22, 0x105f22, 0x1038c7,
  0x1232b8, 0x1261da, 0x105f62, 0x105f6b, 0x1038e3, 0x105f9a, 0x105fcd, 0x105fd7, 0x105ff9,
  0x106081, 0x10393a, 0x10391c, 0x106094, 0x1226d4, 0x1060c7, 0x106148, 0x10614c, 0x10614e,
  0x10614c, 0x10617a, 0x10618e, 0x1061b2, 0x1061a4, 0x1061af, 0x1061de, 0x1061f2, 0x1061f6,
  0x106210, 0x10621b, 0x10625d, 0x1062b1, 0x1062d4, 0x106350, 0x122b0c, 0x10633d, 0x1062fc,
  0x106368, 0x106383, 0x1063e4, 0x122bf1, 0x106422, 0x1063c5, 0x1063a9, 0x103a2e, 0x106469,
  0x10647e, 0x10649d, 0x106477, 0x103a6c, 0x10654f, 0x10656c, 0x12300a, 0x1065e3, 0x1066f8,
  0x106649, 0x103b19, 0x106691, 0x103b08, 0x103ae4, 0x105192, 0x105195, 0x106700, 0x10669c,
  0x1080ad, 0x1043d9, 0x106717, 0x10671b, 0x106721, 0x10675e, 0x106753, 0x1233c3, 0x103b49,
  0x1067fa, 0x106785, 0x106852, 0x106885, 0x12346d, 0x10688e, 0x10681f, 0x106914, 0x103b9d,
  0x106942, 0x1069a3, 0x1069ea, 0x106aa8, 0x1236a3, 0x106adb, 0x103c18, 0x106b21, 0x1238a7,
  0x106b54, 0x103c4e, 0x106b72, 0x106b9f, 0x106bba, 0x106bbb, 0x123a8d, 0x121d0b, 0x123afa,
  0x106c4e, 0x123cbc, 0x106cbf, 0x106ccd, 0x106c67, 0x106d16, 0x106d3e, 0x106d77, 0x106d41,
  0x106d69, 0x106d78, 0x106d85, 0x123d1e, 0x106d34, 0x106e2f, 0x106e6e, 0x103d33, 0x106ecb,
  0x106ec7, 0x123ed1, 0x106df9, 0x106f6e, 0x123f5e, 0x123f8e, 0x106fc6, 0x107039, 0x10701e,
  0x10701b, 0x103d96, 0x10704a, 0x10707d, 0x107077, 0x1070ad, 0x120525, 0x107145, 0x124263,
  0x10719c, 0x1243ab, 0x107228, 0x107235, 0x107250, 0x124608, 0x107280, 0x107295, 0x124735,
  0x124814, 0x10737a, 0x10738b, 0x103eac, 0x1073a5, 0x103eb8, 0x103eb8, 0x107447, 0x10745c,
  0x107471, 0x107485, 0x1074ca, 0x103f1b, 0x107524, 0x124c36, 0x10753e, 0x124c92, 0x107570,
  0x12219f, 0x107610, 0x124fa1, 0x124fb8, 0x125044, 0x103ffc, 0x104008, 0x1076f4, 0x1250f3,
  0x1250f2, 0x125119, 0x125133, 0x10771e, 0x10771f, 0x10771f, 0x10774a, 0x104039, 0x10778b,
  0x104046, 0x104096, 0x12541d, 0x10784e, 0x10788c, 0x1078cc, 0x1040e3, 0x125626, 0x107956,
  0x12569a, 0x1256c5, 0x10798f, 0x1079eb, 0x10412f, 0x107a40, 0x107a4a, 0x107a4f, 0x12597c,
  0x125aa7, 0x125aa7, 0x107aee, 0x104202, 0x125bab, 0x107bc6, 0x107bc9, 0x104227, 0x125c80,
  0x107cd2, 0x1042a0, 0x107ce8, 0x107ce3, 0x107d00, 0x125f86, 0x107d63, 0x104301, 0x107dc7,
  0x107e02, 0x107e45, 0x104334, 0x126228, 0x126247, 0x104359, 0x1262d9, 0x107f7a, 0x12633e,
  0x107f95, 0x107ffa, 0x108005, 0x1264da, 0x126523, 0x108060, 0x1265a8, 0x108070, 0x12335f,
  0x1043d5, 0x1080b2, 0x108103, 0x10440b, 0x10813e, 0x105ab5, 0x1267a7, 0x1267b5, 0x123393,
  0x12339c, 0x108201, 0x108204, 0x108f9e, 0x10446b, 0x108291, 0x10828b, 0x10829d, 0x1052b3,
  0x1082b1, 0x1082b3, 0x1082bd, 0x1082e6, 0x126b3c, 0x1082e5, 0x10831d, 0x108363, 0x1083ad,
  0x108323, 0x1083bd, 0x1083e7, 0x108457, 0x108353, 0x1083ca, 0x1083cc, 0x1083dc, 0x126c36,
  0x126d6b, 0x126cd5, 0x10452b, 0x1084f1, 0x1084f3, 0x108516, 0x1273ca, 0x108564, 0x126f2c,
  0x10455d, 0x104561, 0x126fb1, 0x1270d2, 0x10456b, 0x108650, 0x10865c, 0x108667, 0x108669,
  0x1086a9, 0x108688, 0x10870e, 0x1086e2, 0x108779, 0x108728, 0x10876b, 0x108786, 0x1045d7,
  0x1087e1, 0x108801, 0x1045f9, 0x108860, 0x108863, 0x127667, 0x1088d7, 0x1088de, 0x104635,
  0x1088fa, 0x1034bb, 0x1278ae, 0x127966, 0x1046be, 0x1046c7, 0x108aa0, 0x108aed, 0x108b8a,
  0x108c55, 0x127ca8, 0x108cab, 0x108cc1, 0x108d1b, 0x108d77, 0x127f2f, 0x120804, 0x108dcb,
  0x108dbc, 0x108df0, 0x1208de, 0x108ed4, 0x108f38, 0x1285d2, 0x1285ed, 0x109094, 0x1090f1,
  0x109111, 0x12872e, 0x10911b, 0x109238, 0x1092d7, 0x1092d8, 0x10927c, 0x1093f9, 0x109415,
  0x128bfa, 0x10958b, 0x104995, 0x1095b7, 0x128d77, 0x1049e6, 0x1096c3, 0x105db2, 0x109723,
  0x129145, 0x12921a, 0x104a6e, 0x104a76, 0x1097e0, 0x12940a, 0x104ab2, 0x129496, 0x10980b,
  0x10980b, 0x109829, 0x1295b6, 0x1098e2, 0x104b33, 0x109929, 0x1099a7, 0x1099c2, 0x1099fe,
  0x104bce, 0x129b30, 0x109b12, 0x109c40, 0x109cfd, 0x104cce, 0x104ced, 0x109d67, 0x12a0ce,
  0x104cf8, 0x12a105, 0x12a20e, 0x12a291, 0x109ebb, 0x104d56, 0x109ef9, 0x109efe, 0x109f05,
  0x109f0f, 0x109f16, 0x109f3b, 0x12a600]

/-- Full compatibility decompositions: how far the character is behind the one of the row
before, and the characters it stands for. -/
def decompositionRows : List Nat :=
  scriptRows ++ symbolRows ++ formRows ++ mathematicalRows ++ supplementRows

/-- Composition pairs: the first character, the second, and the one that they form. -/
def compositionRows : List Nat := [
  0x4100300000c0, 0x4100301000c1, 0x4100302000c2, 0x4100303000c3, 0x4100308000c4, 0x410030a000c5,
  0x4300327000c7, 0x4500300000c8, 0x4500301000c9, 0x4500302000ca, 0x4500308000cb, 0x4900300000cc,
  0x4900301000cd, 0x4900302000ce, 0x4900308000cf, 0x4e00303000d1, 0x4f00300000d2, 0x4f00301000d3,
  0x4f00302000d4, 0x4f00303000d5, 0x4f00308000d6, 0x5500300000d9, 0x5500301000da, 0x5500302000db,
  0x5500308000dc, 0x5900301000dd, 0x6100300000e0, 0x6100301000e1, 0x6100302000e2, 0x6100303000e3,
  0x6100308000e4, 0x610030a000e5, 0x6300327000e7, 0x6500300000e8, 0x6500301000e9, 0x6500302000ea,
  0x6500308000eb, 0x6900300000ec, 0x6900301000ed, 0x6900302000ee, 0x6900308000ef, 0x6e00303000f1,
  0x6f00300000f2, 0x6f00301000f3, 0x6f00302000f4, 0x6f00303000f5, 0x6f00308000f6, 0x7500300000f9,
  0x7500301000fa, 0x7500302000fb, 0x7500308000fc, 0x7900301000fd, 0x7900308000ff, 0x410030400100,
  0x610030400101, 0x410030600102, 0x610030600103, 0x410032800104, 0x610032800105, 0x430030100106,
  0x630030100107, 0x430030200108, 0x630030200109, 0x43003070010a, 0x63003070010b, 0x430030c0010c,
  0x630030c0010d, 0x440030c0010e, 0x640030c0010f, 0x450030400112, 0x650030400113, 0x450030600114,
  0x650030600115, 0x450030700116, 0x650030700117, 0x450032800118, 0x650032800119, 0x450030c0011a,
  0x650030c0011b, 0x47003020011c, 0x67003020011d, 0x47003060011e, 0x67003060011f, 0x470030700120,
  0x670030700121, 0x470032700122, 0x670032700123, 0x480030200124, 0x680030200125, 0x490030300128,
  0x690030300129, 0x49003040012a, 0x69003040012b, 0x49003060012c, 0x69003060012d, 0x49003280012e,
  0x69003280012f, 0x490030700130, 0x4a0030200134, 0x6a0030200135, 0x4b0032700136, 0x6b0032700137,
  0x4c0030100139, 0x6c003010013a, 0x4c003270013b, 0x6c003270013c, 0x4c0030c0013d, 0x6c0030c0013e,
  0x4e0030100143, 0x6e0030100144, 0x4e0032700145, 0x6e0032700146, 0x4e0030c00147, 0x6e0030c00148,
  0x4f003040014c, 0x6f003040014d, 0x4f003060014e, 0x6f003060014f, 0x4f0030b00150, 0x6f0030b00151,
  0x520030100154, 0x720030100155, 0x520032700156, 0x720032700157, 0x520030c00158, 0x720030c00159,
  0x53003010015a, 0x73003010015b, 0x53003020015c, 0x73003020015d, 0x53003270015e, 0x73003270015f,
  0x530030c00160, 0x730030c00161, 0x540032700162, 0x740032700163, 0x540030c00164, 0x740030c00165,
  0x550030300168, 0x750030300169, 0x55003040016a, 0x75003040016b, 0x55003060016c, 0x75003060016d,
  0x550030a0016e, 0x750030a0016f, 0x550030b00170, 0x750030b00171, 0x550032800172, 0x750032800173,
  0x570030200174, 0x770030200175, 0x590030200176, 0x790030200177, 0x590030800178, 0x5a0030100179,
  0x7a003010017a, 0x5a003070017b, 0x7a003070017c, 0x5a0030c0017d, 0x7a0030c0017e, 0x4f0031b001a0,
  0x6f0031b001a1, 0x550031b001af, 0x750031b001b0, 0x410030c001cd, 0x610030c001ce, 0x490030c001cf,
  0x690030c001d0, 0x4f0030c001d1, 0x6f0030c001d2, 0x550030c001d3, 0x750030c001d4, 0xdc00304001d5,
  0xfc00304001d6, 0xdc00301001d7, 0xfc00301001d8, 0xdc0030c001d9, 0xfc0030c001da, 0xdc00300001db,
  0xfc00300001dc, 0xc400304001de, 0xe400304001df, 0x22600304001e0, 0x22700304001e1, 0xc600304001e2,
  0xe600304001e3, 0x470030c001e6, 0x670030c001e7, 0x4b0030c001e8, 0x6b0030c001e9, 0x4f00328001ea,
  0x6f00328001eb, 0x1ea00304001ec, 0x1eb00304001ed, 0x1b70030c001ee, 0x2920030c001ef,
  0x6a0030c001f0, 0x4700301001f4, 0x6700301001f5, 0x4e00300001f8, 0x6e00300001f9, 0xc500301001fa,
  0xe500301001fb, 0xc600301001fc, 0xe600301001fd, 0xd800301001fe, 0xf800301001ff, 0x410030f00200,
  0x610030f00201, 0x410031100202, 0x610031100203, 0x450030f00204, 0x650030f00205, 0x450031100206,
  0x650031100207, 0x490030f00208, 0x690030f00209, 0x49003110020a, 0x69003110020b, 0x4f0030f0020c,
  0x6f0030f0020d, 0x4f003110020e, 0x6f003110020f, 0x520030f00210, 0x720030f00211, 0x520031100212,
  0x720031100213, 0x550030f00214, 0x750030f00215, 0x550031100216, 0x750031100217, 0x530032600218,
  0x730032600219, 0x54003260021a, 0x74003260021b, 0x480030c0021e, 0x680030c0021f, 0x410030700226,
  0x610030700227, 0x450032700228, 0x650032700229, 0xd6003040022a, 0xf6003040022b, 0xd5003040022c,
  0xf5003040022d, 0x4f003070022e, 0x6f003070022f, 0x22e0030400230, 0x22f0030400231, 0x590030400232,
  0x790030400233, 0xa80030100385, 0x3910030100386, 0x3950030100388, 0x3970030100389,
  0x399003010038a, 0x39f003010038c, 0x3a5003010038e, 0x3a9003010038f, 0x3ca0030100390,
  0x39900308003aa, 0x3a500308003ab, 0x3b100301003ac, 0x3b500301003ad, 0x3b700301003ae,
  0x3b900301003af, 0x3cb00301003b0, 0x3b900308003ca, 0x3c500308003cb, 0x3bf00301003cc,
  0x3c500301003cd, 0x3c900301003ce, 0x3d200301003d3, 0x3d200308003d4, 0x4150030000400,
  0x4150030800401, 0x4130030100403, 0x4060030800407, 0x41a003010040c, 0x418003000040d,
  0x423003060040e, 0x4180030600419, 0x4380030600439, 0x4350030000450, 0x4350030800451,
  0x4330030100453, 0x4560030800457, 0x43a003010045c, 0x438003000045d, 0x443003060045e,
  0x4740030f00476, 0x4750030f00477, 0x41600306004c1, 0x43600306004c2, 0x41000306004d0,
  0x43000306004d1, 0x41000308004d2, 0x43000308004d3, 0x41500306004d6, 0x43500306004d7,
  0x4d800308004da, 0x4d900308004db, 0x41600308004dc, 0x43600308004dd, 0x41700308004de,
  0x43700308004df, 0x41800304004e2, 0x43800304004e3, 0x41800308004e4, 0x43800308004e5,
  0x41e00308004e6, 0x43e00308004e7, 0x4e800308004ea, 0x4e900308004eb, 0x42d00308004ec,
  0x44d00308004ed, 0x42300304004ee, 0x44300304004ef, 0x42300308004f0, 0x44300308004f1,
  0x4230030b004f2, 0x4430030b004f3, 0x42700308004f4, 0x44700308004f5, 0x42b00308004f8,
  0x44b00308004f9, 0x6270065300622, 0x6270065400623, 0x6480065400624, 0x6270065500625,
  0x64a0065400626, 0x6d500654006c0, 0x6c100654006c2, 0x6d200654006d3, 0x9280093c00929,
  0x9300093c00931, 0x9330093c00934, 0x9c7009be009cb, 0x9c7009d7009cc, 0xb4700b5600b48,
  0xb4700b3e00b4b, 0xb4700b5700b4c, 0xb9200bd700b94, 0xbc600bbe00bca, 0xbc700bbe00bcb,
  0xbc600bd700bcc, 0xc4600c5600c48, 0xcbf00cd500cc0, 0xcc600cd500cc7, 0xcc600cd600cc8,
  0xcc600cc200cca, 0xcca00cd500ccb, 0xd4600d3e00d4a, 0xd4700d3e00d4b, 0xd4600d5700d4c,
  0xdd900dca00dda, 0xdd900dcf00ddc, 0xddc00dca00ddd, 0xdd900ddf00dde, 0x10250102e01026,
  0x1b0501b3501b06, 0x1b0701b3501b08, 0x1b0901b3501b0a, 0x1b0b01b3501b0c, 0x1b0d01b3501b0e,
  0x1b1101b3501b12, 0x1b3a01b3501b3b, 0x1b3c01b3501b3d, 0x1b3e01b3501b40, 0x1b3f01b3501b41,
  0x1b4201b3501b43, 0x410032501e00, 0x610032501e01, 0x420030701e02, 0x620030701e03, 0x420032301e04,
  0x620032301e05, 0x420033101e06, 0x620033101e07, 0xc70030101e08, 0xe70030101e09, 0x440030701e0a,
  0x640030701e0b, 0x440032301e0c, 0x640032301e0d, 0x440033101e0e, 0x640033101e0f, 0x440032701e10,
  0x640032701e11, 0x440032d01e12, 0x640032d01e13, 0x1120030001e14, 0x1130030001e15, 0x1120030101e16,
  0x1130030101e17, 0x450032d01e18, 0x650032d01e19, 0x450033001e1a, 0x650033001e1b, 0x2280030601e1c,
  0x2290030601e1d, 0x460030701e1e, 0x660030701e1f, 0x470030401e20, 0x670030401e21, 0x480030701e22,
  0x680030701e23, 0x480032301e24, 0x680032301e25, 0x480030801e26, 0x680030801e27, 0x480032701e28,
  0x680032701e29, 0x480032e01e2a, 0x680032e01e2b, 0x490033001e2c, 0x690033001e2d, 0xcf0030101e2e,
  0xef0030101e2f, 0x4b0030101e30, 0x6b0030101e31, 0x4b0032301e32, 0x6b0032301e33, 0x4b0033101e34,
  0x6b0033101e35, 0x4c0032301e36, 0x6c0032301e37, 0x1e360030401e38, 0x1e370030401e39,
  0x4c0033101e3a, 0x6c0033101e3b, 0x4c0032d01e3c, 0x6c0032d01e3d, 0x4d0030101e3e, 0x6d0030101e3f,
  0x4d0030701e40, 0x6d0030701e41, 0x4d0032301e42, 0x6d0032301e43, 0x4e0030701e44, 0x6e0030701e45,
  0x4e0032301e46, 0x6e0032301e47, 0x4e0033101e48, 0x6e0033101e49, 0x4e0032d01e4a, 0x6e0032d01e4b,
  0xd50030101e4c, 0xf50030101e4d, 0xd50030801e4e, 0xf50030801e4f, 0x14c0030001e50, 0x14d0030001e51,
  0x14c0030101e52, 0x14d0030101e53, 0x500030101e54, 0x700030101e55, 0x500030701e56, 0x700030701e57,
  0x520030701e58, 0x720030701e59, 0x520032301e5a, 0x720032301e5b, 0x1e5a0030401e5c,
  0x1e5b0030401e5d, 0x520033101e5e, 0x720033101e5f, 0x530030701e60, 0x730030701e61, 0x530032301e62,
  0x730032301e63, 0x15a0030701e64, 0x15b0030701e65, 0x1600030701e66, 0x1610030701e67,
  0x1e620030701e68, 0x1e630030701e69, 0x540030701e6a, 0x740030701e6b, 0x540032301e6c,
  0x740032301e6d, 0x540033101e6e, 0x740033101e6f, 0x540032d01e70, 0x740032d01e71, 0x550032401e72,
  0x750032401e73, 0x550033001e74, 0x750033001e75, 0x550032d01e76, 0x750032d01e77, 0x1680030101e78,
  0x1690030101e79, 0x16a0030801e7a, 0x16b0030801e7b, 0x560030301e7c, 0x760030301e7d, 0x560032301e7e,
  0x760032301e7f, 0x570030001e80, 0x770030001e81, 0x570030101e82, 0x770030101e83, 0x570030801e84,
  0x770030801e85, 0x570030701e86, 0x770030701e87, 0x570032301e88, 0x770032301e89, 0x580030701e8a,
  0x780030701e8b, 0x580030801e8c, 0x780030801e8d, 0x590030701e8e, 0x790030701e8f, 0x5a0030201e90,
  0x7a0030201e91, 0x5a0032301e92, 0x7a0032301e93, 0x5a0033101e94, 0x7a0033101e95, 0x680033101e96,
  0x740030801e97, 0x770030a01e98, 0x790030a01e99, 0x17f0030701e9b, 0x410032301ea0, 0x610032301ea1,
  0x410030901ea2, 0x610030901ea3, 0xc20030101ea4, 0xe20030101ea5, 0xc20030001ea6, 0xe20030001ea7,
  0xc20030901ea8, 0xe20030901ea9, 0xc20030301eaa, 0xe20030301eab, 0x1ea00030201eac,
  0x1ea10030201ead, 0x1020030101eae, 0x1030030101eaf, 0x1020030001eb0, 0x1030030001eb1,
  0x1020030901eb2, 0x1030030901eb3, 0x1020030301eb4, 0x1030030301eb5, 0x1ea00030601eb6,
  0x1ea10030601eb7, 0x450032301eb8, 0x650032301eb9, 0x450030901eba, 0x650030901ebb, 0x450030301ebc,
  0x650030301ebd, 0xca0030101ebe, 0xea0030101ebf, 0xca0030001ec0, 0xea0030001ec1, 0xca0030901ec2,
  0xea0030901ec3, 0xca0030301ec4, 0xea0030301ec5, 0x1eb80030201ec6, 0x1eb90030201ec7,
  0x490030901ec8, 0x690030901ec9, 0x490032301eca, 0x690032301ecb, 0x4f0032301ecc, 0x6f0032301ecd,
  0x4f0030901ece, 0x6f0030901ecf, 0xd40030101ed0, 0xf40030101ed1, 0xd40030001ed2, 0xf40030001ed3,
  0xd40030901ed4, 0xf40030901ed5, 0xd40030301ed6, 0xf40030301ed7, 0x1ecc0030201ed8,
  0x1ecd0030201ed9, 0x1a00030101eda, 0x1a10030101edb, 0x1a00030001edc, 0x1a10030001edd,
  0x1a00030901ede, 0x1a10030901edf, 0x1a00030301ee0, 0x1a10030301ee1, 0x1a00032301ee2,
  0x1a10032301ee3, 0x550032301ee4, 0x750032301ee5, 0x550030901ee6, 0x750030901ee7, 0x1af0030101ee8,
  0x1b00030101ee9, 0x1af0030001eea, 0x1b00030001eeb, 0x1af0030901eec, 0x1b00030901eed,
  0x1af0030301eee, 0x1b00030301eef, 0x1af0032301ef0, 0x1b00032301ef1, 0x590030001ef2,
  0x790030001ef3, 0x590032301ef4, 0x790032301ef5, 0x590030901ef6, 0x790030901ef7, 0x590030301ef8,
  0x790030301ef9, 0x3b10031301f00, 0x3b10031401f01, 0x1f000030001f02, 0x1f010030001f03,
  0x1f000030101f04, 0x1f010030101f05, 0x1f000034201f06, 0x1f010034201f07, 0x3910031301f08,
  0x3910031401f09, 0x1f080030001f0a, 0x1f090030001f0b, 0x1f080030101f0c, 0x1f090030101f0d,
  0x1f080034201f0e, 0x1f090034201f0f, 0x3b50031301f10, 0x3b50031401f11, 0x1f100030001f12,
  0x1f110030001f13, 0x1f100030101f14, 0x1f110030101f15, 0x3950031301f18, 0x3950031401f19,
  0x1f180030001f1a, 0x1f190030001f1b, 0x1f180030101f1c, 0x1f190030101f1d, 0x3b70031301f20,
  0x3b70031401f21, 0x1f200030001f22, 0x1f210030001f23, 0x1f200030101f24, 0x1f210030101f25,
  0x1f200034201f26, 0x1f210034201f27, 0x3970031301f28, 0x3970031401f29, 0x1f280030001f2a,
  0x1f290030001f2b, 0x1f280030101f2c, 0x1f290030101f2d, 0x1f280034201f2e, 0x1f290034201f2f,
  0x3b90031301f30, 0x3b90031401f31, 0x1f300030001f32, 0x1f310030001f33, 0x1f300030101f34,
  0x1f310030101f35, 0x1f300034201f36, 0x1f310034201f37, 0x3990031301f38, 0x3990031401f39,
  0x1f380030001f3a, 0x1f390030001f3b, 0x1f380030101f3c, 0x1f390030101f3d, 0x1f380034201f3e,
  0x1f390034201f3f, 0x3bf0031301f40, 0x3bf0031401f41, 0x1f400030001f42, 0x1f410030001f43,
  0x1f400030101f44, 0x1f410030101f45, 0x39f0031301f48, 0x39f0031401f49, 0x1f480030001f4a,
  0x1f490030001f4b, 0x1f480030101f4c, 0x1f490030101f4d, 0x3c50031301f50, 0x3c50031401f51,
  0x1f500030001f52, 0x1f510030001f53, 0x1f500030101f54, 0x1f510030101f55, 0x1f500034201f56,
  0x1f510034201f57, 0x3a50031401f59, 0x1f590030001f5b, 0x1f590030101f5d, 0x1f590034201f5f,
  0x3c90031301f60, 0x3c90031401f61, 0x1f600030001f62, 0x1f610030001f63, 0x1f600030101f64,
  0x1f610030101f65, 0x1f600034201f66, 0x1f610034201f67, 0x3a90031301f68, 0x3a90031401f69,
  0x1f680030001f6a, 0x1f690030001f6b, 0x1f680030101f6c, 0x1f690030101f6d, 0x1f680034201f6e,
  0x1f690034201f6f, 0x3b10030001f70, 0x3b50030001f72, 0x3b70030001f74, 0x3b90030001f76,
  0x3bf0030001f78, 0x3c50030001f7a, 0x3c90030001f7c, 0x1f000034501f80, 0x1f010034501f81,
  0x1f020034501f82, 0x1f030034501f83, 0x1f040034501f84, 0x1f050034501f85, 0x1f060034501f86,
  0x1f070034501f87, 0x1f080034501f88, 0x1f090034501f89, 0x1f0a0034501f8a, 0x1f0b0034501f8b,
  0x1f0c0034501f8c, 0x1f0d0034501f8d, 0x1f0e0034501f8e, 0x1f0f0034501f8f, 0x1f200034501f90,
  0x1f210034501f91, 0x1f220034501f92, 0x1f230034501f93, 0x1f240034501f94, 0x1f250034501f95,
  0x1f260034501f96, 0x1f270034501f97, 0x1f280034501f98, 0x1f290034501f99, 0x1f2a0034501f9a,
  0x1f2b0034501f9b, 0x1f2c0034501f9c, 0x1f2d0034501f9d, 0x1f2e0034501f9e, 0x1f2f0034501f9f,
  0x1f600034501fa0, 0x1f610034501fa1, 0x1f620034501fa2, 0x1f630034501fa3, 0x1f640034501fa4,
  0x1f650034501fa5, 0x1f660034501fa6, 0x1f670034501fa7, 0x1f680034501fa8, 0x1f690034501fa9,
  0x1f6a0034501faa, 0x1f6b0034501fab, 0x1f6c0034501fac, 0x1f6d0034501fad, 0x1f6e0034501fae,
  0x1f6f0034501faf, 0x3b10030601fb0, 0x3b10030401fb1, 0x1f700034501fb2, 0x3b10034501fb3,
  0x3ac0034501fb4, 0x3b10034201fb6, 0x1fb60034501fb7, 0x3910030601fb8, 0x3910030401fb9,
  0x3910030001fba, 0x3910034501fbc, 0xa80034201fc1, 0x1f740034501fc2, 0x3b70034501fc3,
  0x3ae0034501fc4, 0x3b70034201fc6, 0x1fc60034501fc7, 0x3950030001fc8, 0x3970030001fca,
  0x3970034501fcc, 0x1fbf0030001fcd, 0x1fbf0030101fce, 0x1fbf0034201fcf, 0x3b90030601fd0,
  0x3b90030401fd1, 0x3ca0030001fd2, 0x3b90034201fd6, 0x3ca0034201fd7, 0x3990030601fd8,
  0x3990030401fd9, 0x3990030001fda, 0x1ffe0030001fdd, 0x1ffe0030101fde, 0x1ffe0034201fdf,
  0x3c50030601fe0, 0x3c50030401fe1, 0x3cb0030001fe2, 0x3c10031301fe4, 0x3c10031401fe5,
  0x3c50034201fe6, 0x3cb0034201fe7, 0x3a50030601fe8, 0x3a50030401fe9, 0x3a50030001fea,
  0x3a10031401fec, 0xa80030001fed, 0x1f7c0034501ff2, 0x3c90034501ff3, 0x3ce0034501ff4,
  0x3c90034201ff6, 0x1ff60034501ff7, 0x39f0030001ff8, 0x3a90030001ffa, 0x3a90034501ffc,
  0x2190003380219a, 0x2192003380219b, 0x219400338021ae, 0x21d000338021cd, 0x21d400338021ce,
  0x21d200338021cf, 0x22030033802204, 0x22080033802209, 0x220b003380220c, 0x22230033802224,
  0x22250033802226, 0x223c0033802241, 0x22430033802244, 0x22450033802247, 0x22480033802249,
  0x3d0033802260, 0x22610033802262, 0x224d003380226d, 0x3c003380226e, 0x3e003380226f,
  0x22640033802270, 0x22650033802271, 0x22720033802274, 0x22730033802275, 0x22760033802278,
  0x22770033802279, 0x227a0033802280, 0x227b0033802281, 0x22820033802284, 0x22830033802285,
  0x22860033802288, 0x22870033802289, 0x22a200338022ac, 0x22a800338022ad, 0x22a900338022ae,
  0x22ab00338022af, 0x227c00338022e0, 0x227d00338022e1, 0x229100338022e2, 0x229200338022e3,
  0x22b200338022ea, 0x22b300338022eb, 0x22b400338022ec, 0x22b500338022ed, 0x304b030990304c,
  0x304d030990304e, 0x304f0309903050, 0x30510309903052, 0x30530309903054, 0x30550309903056,
  0x30570309903058, 0x3059030990305a, 0x305b030990305c, 0x305d030990305e, 0x305f0309903060,
  0x30610309903062, 0x30640309903065, 0x30660309903067, 0x30680309903069, 0x306f0309903070,
  0x306f0309a03071, 0x30720309903073, 0x30720309a03074, 0x30750309903076, 0x30750309a03077,
  0x30780309903079, 0x30780309a0307a, 0x307b030990307c, 0x307b0309a0307d, 0x30460309903094,
  0x309d030990309e, 0x30ab03099030ac, 0x30ad03099030ae, 0x30af03099030b0, 0x30b103099030b2,
  0x30b303099030b4, 0x30b503099030b6, 0x30b703099030b8, 0x30b903099030ba, 0x30bb03099030bc,
  0x30bd03099030be, 0x30bf03099030c0, 0x30c103099030c2, 0x30c403099030c5, 0x30c603099030c7,
  0x30c803099030c9, 0x30cf03099030d0, 0x30cf0309a030d1, 0x30d203099030d3, 0x30d20309a030d4,
  0x30d503099030d6, 0x30d50309a030d7, 0x30d803099030d9, 0x30d80309a030da, 0x30db03099030dc,
  0x30db0309a030dd, 0x30a603099030f4, 0x30ef03099030f7, 0x30f003099030f8, 0x30f103099030f9,
  0x30f203099030fa, 0x30fd03099030fe, 0x11099110ba1109a, 0x1109b110ba1109c, 0x110a5110ba110ab,
  0x11131111271112e, 0x11132111271112f, 0x113471133e1134b, 0x11347113571134c, 0x114b9114ba114bb,
  0x114b9114b0114bc, 0x114b9114bd114be, 0x115b8115af115ba, 0x115b9115af115bb, 0x119351193011938]

/-- Combining classes: the first character of a run, the last, and their class. -/
def combiningRows : List Nat := [
  0x30000314000e6, 0x31500315000e8, 0x31600319000dc, 0x31a0031a000e8, 0x31b0031b000d8,
  0x31c00320000dc, 0x32100322000ca, 0x32300326000dc, 0x32700328000ca, 0x32900333000dc,
  0x3340033800001, 0x3390033c000dc, 0x33d00344000e6, 0x34500345000f0, 0x34600346000e6,
  0x34700349000dc, 0x34a0034c000e6, 0x34d0034e000dc, 0x35000352000e6, 0x35300356000dc,
  0x35700357000e6, 0x35800358000e8, 0x3590035a000dc, 0x35b0035b000e6, 0x35c0035c000e9,
  0x35d0035e000ea, 0x35f0035f000e9, 0x36000361000ea, 0x36200362000e9, 0x3630036f000e6,
  0x48300487000e6, 0x59100591000dc, 0x59200595000e6, 0x59600596000dc, 0x59700599000e6,
  0x59a0059a000de, 0x59b0059b000dc, 0x59c005a1000e6, 0x5a2005a7000dc, 0x5a8005a9000e6,
  0x5aa005aa000dc, 0x5ab005ac000e6, 0x5ad005ad000de, 0x5ae005ae000e4, 0x5af005af000e6,
  0x5b0005b00000a, 0x5b1005b10000b, 0x5b2005b20000c, 0x5b3005b30000d, 0x5b4005b40000e,
  0x5b5005b50000f, 0x5b6005b600010, 0x5b7005b700011, 0x5b8005b800012, 0x5b9005ba00013,
  0x5bb005bb00014, 0x5bc005bc00015, 0x5bd005bd00016, 0x5bf005bf00017, 0x5c1005c100018,
  0x5c2005c200019, 0x5c4005c4000e6, 0x5c5005c5000dc, 0x5c7005c700012, 0x61000617000e6,
  0x618006180001e, 0x619006190001f, 0x61a0061a00020, 0x64b0064b0001b, 0x64c0064c0001c,
  0x64d0064d0001d, 0x64e0064e0001e, 0x64f0064f0001f, 0x6500065000020, 0x6510065100021,
  0x6520065200022, 0x65300654000e6, 0x65500656000dc, 0x6570065b000e6, 0x65c0065c000dc,
  0x65d0065e000e6, 0x65f0065f000dc, 0x6700067000023, 0x6d6006dc000e6, 0x6df006e2000e6,
  0x6e3006e3000dc, 0x6e4006e4000e6, 0x6e7006e8000e6, 0x6ea006ea000dc, 0x6eb006ec000e6,
  0x6ed006ed000dc, 0x7110071100024, 0x73000730000e6, 0x73100731000dc, 0x73200733000e6,
  0x73400734000dc, 0x73500736000e6, 0x73700739000dc, 0x73a0073a000e6, 0x73b0073c000dc,
  0x73d0073d000e6, 0x73e0073e000dc, 0x73f00741000e6, 0x74200742000dc, 0x74300743000e6,
  0x74400744000dc, 0x74500745000e6, 0x74600746000dc, 0x74700747000e6, 0x74800748000dc,
  0x7490074a000e6, 0x7eb007f1000e6, 0x7f2007f2000dc, 0x7f3007f3000e6, 0x7fd007fd000dc,
  0x81600819000e6, 0x81b00823000e6, 0x82500827000e6, 0x8290082d000e6, 0x8590085b000dc,
  0x89800898000e6, 0x8990089b000dc, 0x89c0089f000e6, 0x8ca008ce000e6, 0x8cf008d3000dc,
  0x8d4008e1000e6, 0x8e3008e3000dc, 0x8e4008e5000e6, 0x8e6008e6000dc, 0x8e7008e8000e6,
  0x8e9008e9000dc, 0x8ea008ec000e6, 0x8ed008ef000dc, 0x8f0008f00001b, 0x8f1008f10001c,
  0x8f2008f20001d, 0x8f3008f5000e6, 0x8f6008f6000dc, 0x8f7008f8000e6, 0x8f9008fa000dc,
  0x8fb008ff000e6, 0x93c0093c00007, 0x94d0094d00009, 0x95100951000e6, 0x95200952000dc,
  0x95300954000e6, 0x9bc009bc00007, 0x9cd009cd00009, 0x9fe009fe000e6, 0xa3c00a3c00007,
  0xa4d00a4d00009, 0xabc00abc00007, 0xacd00acd00009, 0xb3c00b3c00007, 0xb4d00b4d00009,
  0xbcd00bcd00009, 0xc3c00c3c00007, 0xc4d00c4d00009, 0xc5500c5500054, 0xc5600c560005b,
  0xcbc00cbc00007, 0xccd00ccd00009, 0xd3b00d3c00009, 0xd4d00d4d00009, 0xdca00dca00009,
  0xe3800e3900067, 0xe3a00e3a00009, 0xe4800e4b0006b, 0xeb800eb900076, 0xeba00eba00009,
  0xec800ecb0007a, 0xf1800f19000dc, 0xf3500f35000dc, 0xf3700f37000dc, 0xf3900f39000d8,
  0xf7100f7100081, 0xf7200f7200082, 0xf7400f7400084, 0xf7a00f7d00082, 0xf8000f8000082,
  0xf8200f83000e6, 0xf8400f8400009, 0xf8600f87000e6, 0xfc600fc6000dc, 0x10370103700007,
  0x10390103a00009, 0x108d0108d000dc, 0x135d0135f000e6, 0x17140171500009, 0x17340173400009,
  0x17d2017d200009, 0x17dd017dd000e6, 0x18a9018a9000e4, 0x193901939000de, 0x193a0193a000e6,
  0x193b0193b000dc, 0x1a1701a17000e6, 0x1a1801a18000dc, 0x1a6001a6000009, 0x1a7501a7c000e6,
  0x1a7f01a7f000dc, 0x1ab001ab4000e6, 0x1ab501aba000dc, 0x1abb01abc000e6, 0x1abd01abd000dc,
  0x1abf01ac0000dc, 0x1ac101ac2000e6, 0x1ac301ac4000dc, 0x1ac501ac9000e6, 0x1aca01aca000dc,
  0x1acb01ace000e6, 0x1b3401b3400007, 0x1b4401b4400009, 0x1b6b01b6b000e6, 0x1b6c01b6c000dc,
  0x1b6d01b73000e6, 0x1baa01bab00009, 0x1be601be600007, 0x1bf201bf300009, 0x1c3701c3700007,
  0x1cd001cd2000e6, 0x1cd401cd400001, 0x1cd501cd9000dc, 0x1cda01cdb000e6, 0x1cdc01cdf000dc,
  0x1ce001ce0000e6, 0x1ce201ce800001, 0x1ced01ced000dc, 0x1cf401cf4000e6, 0x1cf801cf9000e6,
  0x1dc001dc1000e6, 0x1dc201dc2000dc, 0x1dc301dc9000e6, 0x1dca01dca000dc, 0x1dcb01dcc000e6,
  0x1dcd01dcd000ea, 0x1dce01dce000d6, 0x1dcf01dcf000dc, 0x1dd001dd0000ca, 0x1dd101df5000e6,
  0x1df601df6000e8, 0x1df701df8000e4, 0x1df901df9000dc, 0x1dfa01dfa000da, 0x1dfb01dfb000e6,
  0x1dfc01dfc000e9, 0x1dfd01dfd000dc, 0x1dfe01dfe000e6, 0x1dff01dff000dc, 0x20d0020d1000e6,
  0x20d2020d300001, 0x20d4020d7000e6, 0x20d8020da00001, 0x20db020dc000e6, 0x20e1020e1000e6,
  0x20e5020e600001, 0x20e7020e7000e6, 0x20e8020e8000dc, 0x20e9020e9000e6, 0x20ea020eb00001,
  0x20ec020ef000dc, 0x20f0020f0000e6, 0x2cef02cf1000e6, 0x2d7f02d7f00009, 0x2de002dff000e6,
  0x302a0302a000da, 0x302b0302b000e4, 0x302c0302c000e8, 0x302d0302d000de, 0x302e0302f000e0,
  0x30990309a00008, 0xa66f0a66f000e6, 0xa6740a67d000e6, 0xa69e0a69f000e6, 0xa6f00a6f1000e6,
  0xa8060a80600009, 0xa82c0a82c00009, 0xa8c40a8c400009, 0xa8e00a8f1000e6, 0xa92b0a92d000dc,
  0xa9530a95300009, 0xa9b30a9b300007, 0xa9c00a9c000009, 0xaab00aab0000e6, 0xaab20aab3000e6,
  0xaab40aab4000dc, 0xaab70aab8000e6, 0xaabe0aabf000e6, 0xaac10aac1000e6, 0xaaf60aaf600009,
  0xabed0abed00009, 0xfb1e0fb1e0001a, 0xfe200fe26000e6, 0xfe270fe2d000dc, 0xfe2e0fe2f000e6,
  0x101fd101fd000dc, 0x102e0102e0000dc, 0x103761037a000e6, 0x10a0d10a0d000dc, 0x10a0f10a0f000e6,
  0x10a3810a38000e6, 0x10a3910a3900001, 0x10a3a10a3a000dc, 0x10a3f10a3f00009, 0x10ae510ae5000e6,
  0x10ae610ae6000dc, 0x10d2410d27000e6, 0x10eab10eac000e6, 0x10f4610f47000dc, 0x10f4810f4a000e6,
  0x10f4b10f4b000dc, 0x10f4c10f4c000e6, 0x10f4d10f50000dc, 0x10f8210f82000e6, 0x10f8310f83000dc,
  0x10f8410f84000e6, 0x10f8510f85000dc, 0x110461104600009, 0x110701107000009, 0x1107f1107f00009,
  0x110b9110b900009, 0x110ba110ba00007, 0x1110011102000e6, 0x111331113400009, 0x111731117300007,
  0x111c0111c000009, 0x111ca111ca00007, 0x112351123500009, 0x112361123600007, 0x112e9112e900007,
  0x112ea112ea00009, 0x1133b1133c00007, 0x1134d1134d00009, 0x113661136c000e6, 0x1137011374000e6,
  0x114421144200009, 0x114461144600007, 0x1145e1145e000e6, 0x114c2114c200009, 0x114c3114c300007,
  0x115bf115bf00009, 0x115c0115c000007, 0x1163f1163f00009, 0x116b6116b600009, 0x116b7116b700007,
  0x1172b1172b00009, 0x118391183900009, 0x1183a1183a00007, 0x1193d1193e00009, 0x119431194300007,
  0x119e0119e000009, 0x11a3411a3400009, 0x11a4711a4700009, 0x11a9911a9900009, 0x11c3f11c3f00009,
  0x11d4211d4200007, 0x11d4411d4500009, 0x11d9711d9700009, 0x16af016af400001, 0x16b3016b36000e6,
  0x16ff016ff100006, 0x1bc9e1bc9e00001, 0x1d1651d166000d8, 0x1d1671d16900001, 0x1d16d1d16d000e2,
  0x1d16e1d172000d8, 0x1d17b1d182000dc, 0x1d1851d189000e6, 0x1d18a1d18b000dc, 0x1d1aa1d1ad000e6,
  0x1d2421d244000e6, 0x1e0001e006000e6, 0x1e0081e018000e6, 0x1e01b1e021000e6, 0x1e0231e024000e6,
  0x1e0261e02a000e6, 0x1e1301e136000e6, 0x1e2ae1e2ae000e6, 0x1e2ec1e2ef000e6, 0x1e8d01e8d6000dc,
  0x1e9441e949000e6, 0x1e94a1e94a00007]

end Text
end DeclSearch
